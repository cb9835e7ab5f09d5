import LogVault.Link.Issuer
import LogVault.Proofs.Digest.Signature
import LogVault.Proofs.Link.Query
import LogVault.Proofs.Url.Rereading

/-!
# LogVault.Proofs.Link.RoundTrip — an issued link is what its checker reads

A link goes out as a URL and comes back as a URL or as the query of one. Its query begins at the
first `?` and carries the payload and the signature letter by letter, the signature is the one that
every issuer with the same secret computes, and the expiry is a whole number of milliseconds that
gives the instant back. So checking an issued link is decided by the mode and the clock alone
(`validateQuery_written`).
-/

namespace LogVault

/-! ## Milliseconds -/

namespace Instant

/-- An instant that was made of milliseconds has as many of them. -/
theorem millis_of_ofMillis? {ms : Int} {t : Instant} (h : ofMillis? ms = some t) :
    t.millis = ms := by
  obtain ⟨hnanos, -⟩ := ofNanos?_eq_some.mp h
  rw [millis, hnanos]
  exact Int.mul_ediv_cancel ms (by decide)

/-- The milliseconds of an instant are a number of 64 bits. -/
theorem expiryFits_of_ofMillis? {q : LinkQuery} {t : Instant}
    (h : ofMillis? q.payload.expires = some t) : q.ExpiryFits := by
  obtain ⟨hnanos, hleap⟩ := ofNanos?_eq_some.mp h
  -- the milliseconds of the first and of the last instant are well within 64 bits
  have hnano := isLeap_eq_false.mp hleap
  have hleast := t.least_le
  have hgreatest := t.le_greatest
  simp only [nanos, nanosPerSecond, nanosPerMilli, leastSecond, greatestSecond] at *
  simp only [LinkQuery.ExpiryFits, LinkQuery.greatestExpiry]
  omega

end Instant

/-! ## The query of a URL -/

/-- **The query of a link**: what follows the first `?` of its URL. -/
def SignedLink.query (l : SignedLink) : String :=
  String.ofList ((l.url.toList.dropWhile (· != '?')).drop 1)

namespace Issuer

/-- The issuer's links lie under a public URL. -/
def HasBase (i : Issuer) : Prop := ∃ publicUrl, baseOf publicUrl = .ok i.base

/-- The public URL is one of the web, where hosts follow the stricter rules. -/
def OnWeb (i : Issuer) : Prop :=
  i.HasBase ∧ Url.isWeb i.base.scheme = true ∧ i.base.scheme ≠ "file".toList

/-- **What is made an issuer of**: a secret that is not empty, and a public URL with a path. -/
theorem make_eq_ok_iff {secret : Bytes} {publicUrl : String} {maxTtl : Duration} {i : Issuer} :
    make secret publicUrl maxTtl = .ok i ↔
      secret ≠ [] ∧ ∃ base, baseOf publicUrl = .ok base ∧ i = ⟨secret, base, maxTtl, false⟩ := by
  rw [make]
  cases secret with
  | nil => simp
  | cons octet rest =>
    cases baseOf publicUrl with
    | error flaw => simp [Except.map]
    | ok base => simp [Except.map, eq_comm]

/-- An issuer that is made keeps the secret, and others can have it too. -/
theorem secret_of_make {secret : Bytes} {publicUrl : String} {maxTtl : Duration} {i : Issuer}
    (h : make secret publicUrl maxTtl = .ok i) : i.secret = secret ∧ i.ephemeral = false := by
  obtain ⟨-, _, -, rfl⟩ := make_eq_ok_iff.mp h
  exact ⟨rfl, rfl⟩

/-- Every issuer that is made has its links under a public URL. -/
theorem hasBase_of_make {secret : Bytes} {publicUrl : String} {maxTtl : Duration} {i : Issuer}
    (h : make secret publicUrl maxTtl = .ok i) : i.HasBase := by
  obtain ⟨-, base, hbase, rfl⟩ := make_eq_ok_iff.mp h
  exact ⟨publicUrl, hbase⟩

/-- Under a public URL of the web an issuer is on the web. -/
theorem onWeb_of_make {secret : Bytes} {publicUrl : String} {maxTtl : Duration} {i : Issuer}
    (h : make secret publicUrl maxTtl = .ok i) {url : Url} (hurl : Url.parse publicUrl = .ok url)
    (hscheme : url.scheme = "http".toList ∨ url.scheme = "https".toList) : i.OnWeb := by
  have hbase := hasBase_of_make h
  obtain ⟨-, base, hof, rfl⟩ := make_eq_ok_iff.mp h
  have hsame : base.scheme = url.scheme := by
    rw [baseOf, hurl] at hof
    dsimp only at hof
    cases hbelow : url.below? redeemSegments with
    | none =>
      rw [hbelow] at hof
      cases hof
    | some below =>
      rw [hbelow] at hof
      cases hof
      unfold Url.below? at hbelow
      split at hbelow
      · cases hbelow
        rfl
      · cases hbelow
  refine ⟨hbase, ?_, ?_⟩
  · rcases hscheme with hscheme | hscheme <;> rw [hsame, hscheme] <;> decide
  · rcases hscheme with hscheme | hscheme <;> rw [hsame, hscheme] <;> decide

/-- The URL under which links are redeemed is in order, and has a path. -/
theorem isRead_base {i : Issuer} (h : i.HasBase) :
    i.base.IsRead ∧ ∃ path, i.base.way = .segments path := by
  obtain ⟨publicUrl, hbase⟩ := h
  unfold baseOf at hbase
  split at hbase
  · cases hbase
  · next url hurl =>
    split at hbase
    · next base hbelow =>
      cases hbase
      have hchars : redeemSegments.all (·.all Url.isStemChar) = true := by decide
      have hsegments : Url.IsPath redeemSegments := fun segment hmem =>
        Url.isStem_of_all (List.all_eq_true.mp hchars segment hmem)
      have hapart : Url.IsApart redeemSegments := Url.isApart_of_cons (by decide) _ _
      exact Url.isRead_of_below? (Url.isRead_of_parse hurl) hsegments hapart hbelow
    · cases hbase

/-- **The query of an issued URL** is the one that was written into it. -/
theorem query_of_url_eq {i : Issuer} (h : i.HasBase) {p : Payload} {l : SignedLink}
    (hl : l.url = i.urlOf p) : l.query = String.ofList (i.queryOf p).write := by
  obtain ⟨hread, path, hway⟩ := isRead_base h
  have hstem := Url.isStem_writeStem hread hway
  have hmark : '?' ∉ i.base.writeStem := fun hmem => absurd (hstem _ hmem) (by decide)
  have hurl : l.url.toList = i.base.writeStem ++ '?' :: (i.queryOf p).write := by
    rw [hl, urlOf, String.toList_ofList]
    rfl
  rw [SignedLink.query, hurl, Text.dropWhile_bne_append_cons hmark, List.drop_succ_cons,
    List.drop_zero]

/-- An issued URL is read again, with its query. -/
theorem exists_parse_urlOf_of_hasBase {i : Issuer} (h : i.HasBase) (p : Payload) :
    ∃ url, Url.parse (i.urlOf p) = .ok url ∧ url.query = some (i.queryOf p).write := by
  obtain ⟨hread, path, hway⟩ := isRead_base h
  have hchars : ∀ c ∈ (i.queryOf p).write, Form.isQueryChar c = true := fun _ =>
    LinkQuery.isQueryChar_of_mem_write
  have hparse := Url.exists_parse_write hread hway hchars
  rw [urlOf]
  exact hparse

theorem exists_parse_urlOf {i : Issuer} (h : i.OnWeb) (p : Payload) :
    ∃ url, Url.parse (i.urlOf p) = .ok url ∧ url.query = some (i.queryOf p).write :=
  exists_parse_urlOf_of_hasBase h.1 p

/-! ## Issuing and checking -/

theorem issue_eq_ok_iff {i : Issuer} {key : StorageKey} {snapshot : Option String} {mode : Mode}
    {ttl : Duration} {now : Instant} {link : SignedLink} :
    i.issue key snapshot mode ttl now = .ok link ↔
      ∃ expires, i.expiry ttl now = .ok expires ∧
        link = ⟨i.urlOf ⟨key.text, snapshot, mode, expires.millis⟩, mode, expires, key⟩ := by
  rw [issue]
  cases i.expiry ttl now with
  | error flaw => simp [Except.map]
  | ok expires => simp only [Except.map, Except.ok.injEq, exists_eq_left', eq_comm]

/-- An expiry is an instant of whole milliseconds. -/
theorem ofMillis?_millis_of_expiry {i : Issuer} {ttl : Duration} {now expires : Instant}
    (h : i.expiry ttl now = .ok expires) : Instant.ofMillis? expires.millis = some expires := by
  unfold expiry at h
  split at h
  · cases h
  · split at h
    · cases h
    · split at h
      · next t ht =>
        cases h
        obtain ⟨s, -, hs⟩ := Option.bind_eq_some_iff.mp ht
        rw [Instant.millis_of_ofMillis? hs, hs]
      · cases h

/-- **What checking a written query says**: the mode is looked at first, then the clock. -/
theorem validateQuery_written {i j : Issuer} (hsecret : j.secret = i.secret) {p : Payload}
    {expires : Instant} (hexpires : Instant.ofMillis? p.expires = some expires) (mode : Mode)
    (t : Instant) :
    j.validateQuery (String.ofList (i.queryOf p).write) mode t =
      if p.mode = mode then
        if expires < t then .error (.expired p.key expires)
        else .ok ⟨⟨p.key⟩, p.snapshot, p.mode, expires⟩
      else .error (.otherMode p.mode mode) := by
  have hread : LinkQuery.read? (String.ofList (i.queryOf p).write) = some (i.queryOf p) :=
    LinkQuery.read?_write (Instant.expiryFits_of_ofMillis? (q := i.queryOf p) hexpires)
  have hverify : Hmac.verify j.secret p.octets (i.sign p) = true := by
    rw [hsecret]
    exact Hmac.verify_sign i.secret p.octets
  rw [validateQuery, hread]
  simp only [validateFields, queryOf, hverify, if_true, hexpires]

/-- **What an accepted query is**: one that reads as a signed payload of the wanted mode that has
not expired, and its claims are those of the payload. -/
theorem exists_of_validateQuery_eq_ok {i : Issuer} {query : String} {mode : Mode} {t : Instant}
    {claims : Claims} (h : i.validateQuery query mode t = .ok claims) :
    ∃ q, LinkQuery.read? query = some q ∧
      Hmac.verify i.secret q.payload.octets q.signature = true ∧ q.payload.mode = mode ∧
      Instant.ofMillis? q.payload.expires = some claims.expires ∧ t ≤ claims.expires ∧
      claims.key.text = q.payload.key ∧ claims.snapshot = q.payload.snapshot := by
  -- the checks in their order: reading, signature, mode, expiry, clock
  unfold validateQuery at h
  split at h
  · cases h
  · next q hread =>
    unfold validateFields at h
    split at h
    · next hverify =>
      split at h
      · next hmode =>
        split at h
        · cases h
        · next expires hexpires =>
          split at h
          · cases h
          · next hclock =>
            cases h
            exact ⟨q, hread, hverify, hmode, hexpires, Decidable.not_not.mp hclock, rfl, rfl⟩
      · cases h
    · cases h

/-- Checking a URL is checking its query. -/
theorem validate_eq_validateQuery {i : Issuer} {link : String} {url : Url} {query : List Char}
    (hurl : Url.parse link = .ok url) (hquery : url.query = some query) (mode : Mode)
    (t : Instant) :
    i.validate link mode t = i.validateQuery (String.ofList query) mode t := by
  simp only [validate, hurl, hquery, Option.getD_some]

section Issued

variable {i j : Issuer} {key : StorageKey} {snapshot : Option String} {mode : Mode}
  {ttl : Duration} {now : Instant} {link : SignedLink}

/-- **A link that was issued** is for its key and its mode, and carries its own instant of expiry,
which is one of whole milliseconds. -/
theorem of_issue (h : i.issue key snapshot mode ttl now = .ok link) :
    i.expiry ttl now = .ok link.expires ∧ link.key = key ∧ link.mode = mode ∧
      Instant.ofMillis? link.expires.millis = some link.expires ∧
      link.url = i.urlOf ⟨key.text, snapshot, mode, link.expires.millis⟩ := by
  obtain ⟨expires, hexpiry, rfl⟩ := issue_eq_ok_iff.mp h
  exact ⟨hexpiry, rfl, rfl, ofMillis?_millis_of_expiry hexpiry, rfl⟩

/-- **Checking the query of an issued link** looks at the mode, then at the clock. -/
theorem validateQuery_of_issue (hbase : i.HasBase) (hsecret : j.secret = i.secret)
    (h : i.issue key snapshot mode ttl now = .ok link) (requested : Mode) (t : Instant) :
    j.validateQuery link.query requested t =
      if mode = requested then
        if link.expires < t then .error (.expired key.text link.expires)
        else .ok ⟨key, snapshot, mode, link.expires⟩
      else .error (.otherMode mode requested) := by
  obtain ⟨-, -, -, hmillis, hurl⟩ := of_issue h
  rw [query_of_url_eq hbase hurl]
  exact validateQuery_written hsecret hmillis requested t

/-- Checking an issued URL is checking its query. -/
theorem validate_of_issue (hbase : i.HasBase) (h : i.issue key snapshot mode ttl now = .ok link)
    (requested : Mode) (t : Instant) :
    j.validate link.url requested t = j.validateQuery link.query requested t := by
  obtain ⟨-, -, -, -, hlink⟩ := of_issue h
  obtain ⟨url, hurl, hquery⟩ := exists_parse_urlOf_of_hasBase hbase
    ⟨key.text, snapshot, mode, link.expires.millis⟩
  rw [query_of_url_eq hbase hlink, hlink]
  exact validate_eq_validateQuery hurl hquery requested t

end Issued

/-- **Issued by one, checked by another.** A link that an issuer on the web made for a key, a
snapshot and a mode is read as a URL, and every issuer with the same secret says the same of the URL
and of its query: it grants just that until it expires, then it is expired, and for the other mode
it never grants anything. -/
theorem validate_issued {A B : Issuer} (hweb : A.OnWeb) (hsecret : B.secret = A.secret)
    {key : StorageKey} {snapshot : Option String} {mode : Mode} {ttl : Duration} {now : Instant}
    {link : SignedLink} (h : A.issue key snapshot mode ttl now = .ok link) :
    (∃ url, Url.parse link.url = .ok url ∧ url.query = some link.query.toList) ∧
      (∀ t, t ≤ link.expires →
        B.validate link.url mode t = .ok ⟨key, snapshot, mode, link.expires⟩ ∧
          B.validateQuery link.query mode t = .ok ⟨key, snapshot, mode, link.expires⟩) ∧
      (∀ t, link.expires < t →
        B.validate link.url mode t = .error (.expired key.text link.expires) ∧
          B.validateQuery link.query mode t = .error (.expired key.text link.expires)) ∧
      (∀ other, other ≠ mode → ∀ t,
        B.validate link.url other t = .error (.otherMode mode other) ∧
          B.validateQuery link.query other t = .error (.otherMode mode other)) := by
  obtain ⟨expires, hexpiry, rfl⟩ := issue_eq_ok_iff.mp h
  have hmillis := ofMillis?_millis_of_expiry hexpiry
  dsimp only
  -- a name for the payload keeps it whole while the link is taken apart
  generalize hp : (⟨key.text, snapshot, mode, expires.millis⟩ : Payload) = p
  have hquery : SignedLink.query ⟨A.urlOf p, mode, expires, key⟩ =
      String.ofList (A.queryOf p).write := query_of_url_eq hweb.1 rfl
  obtain ⟨url, hurl, hurlQuery⟩ := exists_parse_urlOf hweb p
  have hchecked := validateQuery_written hsecret (p := p) (by rw [← hp]; exact hmillis)
  have hboth : ∀ requested t, B.validate (A.urlOf p) requested t =
      B.validateQuery (String.ofList (A.queryOf p).write) requested t :=
    fun requested t => validate_eq_validateQuery hurl hurlQuery requested t
  rw [hquery]
  simp only [hboth, hchecked, and_self, String.toList_ofList]
  subst hp
  refine ⟨⟨url, hurl, hurlQuery⟩, ?_, ?_, ?_⟩
  · intro t ht
    have hnot : ¬ expires < t := fun hlt => hlt ht
    rw [if_pos rfl, if_neg hnot]
  · intro t ht
    rw [if_pos rfl, if_pos ht]
  · intro other hother t
    rw [if_neg (Ne.symm hother)]

/-- Under an address in brackets, for a blob with a snapshot of no characters, and with an expiry
before 1970. -/
theorem validate_issued_before_1970 :
    ∃ A B : Issuer, ∃ now expires : Instant, ∃ link : SignedLink,
      A.OnWeb ∧ B.secret = A.secret ∧ B.maxTtl ≠ A.maxTtl ∧ expires.millis = -86399999 ∧
        A.issue ⟨"acc@1/a b+c%&=é\""⟩ (some "") .upload ⟨1500000⟩ now = .ok link ∧
        B.validate link.url .upload expires =
          .ok ⟨⟨"acc@1/a b+c%&=é\""⟩, some "", .upload, expires⟩ ∧
        B.validate link.url .upload .zero = .error (.expired "acc@1/a b+c%&=é\"" expires) ∧
        B.validateQuery link.query .download .zero = .error (.otherMode .upload .download) := by
  let base : Url := ⟨"http".toList, some ⟨"bob:pw@".toList, "[2001:db8::1]".toList, some 8080⟩,
    false, .segments ["base".toList, "blob".toList, "signed".toList], none⟩
  let now : Instant := ⟨-86400, 0, by decide, by decide, by decide⟩
  let expires : Instant := ⟨-86400, 1000000, by decide, by decide, by decide⟩
  let A : Issuer := ⟨[1, 2, 3], base, ⟨2000000⟩, false⟩
  let B : Issuer := ⟨[1, 2, 3], base, ⟨0⟩, true⟩
  have hbase : baseOf "http://bob:pw@[2001:db8::1]:8080/base/?x=1#top" = .ok base := rfl
  have hweb : A.OnWeb := ⟨⟨_, hbase⟩, by decide, by decide⟩
  have hissue : A.issue ⟨"acc@1/a b+c%&=é\""⟩ (some "") .upload ⟨1500000⟩ now =
      .ok ⟨A.urlOf ⟨"acc@1/a b+c%&=é\"", some "", .upload, -86399999⟩, .upload, expires,
        ⟨"acc@1/a b+c%&=é\""⟩⟩ := rfl
  obtain ⟨-, hvalid, hexpired, hother⟩ := validate_issued (B := B) hweb rfl hissue
  refine ⟨A, B, now, expires, _, hweb, rfl, by decide, rfl, hissue, ?_, ?_, ?_⟩
  · exact (hvalid expires (by decide)).1
  · exact (hexpired .zero (by decide)).1
  · exact (hother .download (by decide) .zero).2

end Issuer

end LogVault
