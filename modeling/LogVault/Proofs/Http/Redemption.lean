import LogVault.Proofs.Http.Run
import LogVault.Proofs.Text.Hex

/-!
# LogVault.Proofs.Http.Redemption — through a link or directly

A link is asked for with the same query as the blob itself, and then redeemed by its own path and
query. Until it expires, redeeming it is the same as asking for the blob directly: the answer is the
same, byte for byte, and so is what is left in the store (`redemption_eq_direct`).

Two ways of reading meet here. The query of the caller was read into parameters, and the storage key
that came of them was written into the query of the link; the path and the query of the link are a
request target (`parse_target`), and reading them gives that storage key.
-/

namespace LogVault

/-- **The path and the query of a link**: what follows the host in its URL. -/
def SignedLink.target (l : SignedLink) : String :=
  String.ofList (((l.url.toList.dropWhile (· != ':')).drop 3).dropWhile (· != '/'))

namespace Issuer

/-- **Links lie right under the host**: the public URL has the scheme `http` or `https` and no path.
-/
def AtOrigin (i : Issuer) : Prop :=
  ∃ publicUrl url, Url.parse publicUrl = .ok url ∧
    (url.scheme = "http".toList ∨ url.scheme = "https".toList) ∧ url.way = .segments [[]] ∧
    baseOf publicUrl = .ok i.base

theorem base_of_atOrigin {i : Issuer} (h : i.AtOrigin) :
    i.OnWeb ∧ (i.base.scheme = "http".toList ∨ i.base.scheme = "https".toList) ∧
      i.base.way = .segments redeemSegments := by
  obtain ⟨publicUrl, url, hurl, hscheme, hway, hbase⟩ := h
  have hbelow : i.base = { url with way := .segments redeemSegments, query := none } := by
    have hbase' := hbase
    simp only [baseOf, hurl, Url.below?, hway] at hbase'
    exact (Except.ok.inj hbase').symm
  have hsame : i.base.scheme = url.scheme := by rw [hbelow]
  refine ⟨⟨⟨publicUrl, hbase⟩, ?_, ?_⟩, hsame ▸ hscheme, by rw [hbelow]⟩
  · rw [hsame]
    rcases hscheme with h | h <;> rw [h] <;> decide
  · rw [hsame]
    rcases hscheme with h | h <;> rw [h] <;> decide

/-- **The path and the query of an issued link** are those for redeeming it. -/
theorem target_of_url_eq {i : Issuer} (h : i.AtOrigin) {p : Payload} {l : SignedLink}
    (hl : l.url = i.urlOf p) :
    l.target.toList = "/blob/signed".toList ++ '?' :: (i.queryOf p).write := by
  obtain ⟨⟨hbase, hweb, hfile⟩, hscheme, hway⟩ := base_of_atOrigin h
  obtain ⟨hread, -⟩ := isRead_base hbase
  obtain ⟨a, ha⟩ := Option.ne_none_iff_exists'.mp (hread.web hweb)
  have hurl : l.url.toList = i.base.scheme ++ ':' :: '/' :: '/' ::
      (a.write ++ ("/blob/signed".toList ++ '?' :: (i.queryOf p).write)) := by
    have hmiddle := Url.middle_of_authority hread ha hway
    have hpath : Url.writePath redeemSegments = "/blob/signed".toList := rfl
    rw [hl, urlOf, String.toList_ofList]
    show i.base.writeStem ++ '?' :: (i.queryOf p).write = _
    rw [Url.writeStem_eq, hmiddle, hpath]
    simp only [List.append_assoc, List.cons_append]
  have hcolon : ':' ∉ i.base.scheme := by
    rcases hscheme with h | h <;> rw [h] <;> decide
  have hslash : '/' ∉ a.write := fun hmem =>
    absurd (Url.isAuthorityChar_of_mem_write (hread.authority a ha) hfile hmem) (by decide)
  have hcut : "/blob/signed".toList = '/' :: "blob/signed".toList := rfl
  rw [SignedLink.target, String.toList_ofList, hurl, Text.dropWhile_bne_append_cons hcolon]
  simp only [List.drop_succ_cons, List.drop_zero]
  rw [hcut, List.cons_append, Text.dropWhile_bne_append_cons hslash]

end Issuer

namespace Http

/-! ## The path and the query as a request target -/

namespace Target

/-- A character of a query that links have may stand in the query of a target. -/
theorem isQueryChar_of_form {c : Char} (h : Form.isQueryChar c = true) :
    isQueryChar c = true ∧ c ≠ '#' := by
  have hascii := Form.toNat_lt_of_isQueryChar h
  revert h
  refine Url.forall_ascii hascii ?_
  decide +kernel

/-- **A path and a query** are read letter by letter if their characters may stand there. -/
theorem parse_append_query {s : String} {path q : List Char}
    (hs : s.toList = ('/' :: path) ++ '?' :: q)
    (hends : ('/' :: path).all (fun c => c != '?' && c != '#') = true)
    (hchars : ('/' :: path).all isPathChar = true) (hnumber : '#' ∉ q) :
    parse s = if longest < (Text.bytes s).length then .error .tooLong
      else if q.all isQueryChar then .ok ⟨'/' :: path, some q⟩ else .error .character := by
  have hpath : ∀ c ∈ '/' :: path, (c != '?' && c != '#') = true := List.all_eq_true.mp hends
  have hmark : ('?' != '?' && '?' != '#') = false := rfl
  have htake : s.toList.takeWhile (fun c => c != '?' && c != '#') = '/' :: path := by
    rw [hs, Text.takeWhile_append_cons_of_neg hpath hmark]
  have hdrop : s.toList.dropWhile (fun c => c != '?' && c != '#') = '?' :: q := by
    rw [hs, Text.dropWhile_append_cons_of_neg hpath hmark]
  have hread : ofPath s.toList =
      if q.all isQueryChar then .ok ⟨'/' :: path, some q⟩ else .error .character := by
    rw [ofPath]
    simp only [htake, hdrop, hchars, List.isEmpty_cons, Text.takeWhile_bne_eq_self hnumber,
      if_true, Bool.false_eq_true, if_false]
  rw [← hread, parse]
  simp only [hs, List.cons_append]

/-- **The path and the query of a link** are a target just if they are not too long, and then they
are read letter by letter. -/
theorem parse_of_link {s : String} {q : List Char}
    (hs : s.toList = "/blob/signed".toList ++ '?' :: q)
    (hq : ∀ c ∈ q, Form.isQueryChar c = true) :
    parse s = if longest < (Text.bytes s).length then .error .tooLong
      else .ok ⟨"/blob/signed".toList, some q⟩ := by
  have hall : q.all isQueryChar = true :=
    List.all_eq_true.mpr fun c hc => (isQueryChar_of_form (hq c hc)).1
  have hnumber : '#' ∉ q := fun hmem => (isQueryChar_of_form (hq _ hmem)).2 rfl
  have hparse := parse_append_query hs (by decide) (by decide) hnumber
  rwa [if_pos hall] at hparse

/-- The path and the query of a link are a target unless its key and its snapshot are very long. -/
theorem parse_of_short_link {i : Issuer} (h : i.AtOrigin) {p : Payload} {l : SignedLink}
    (hl : l.url = i.urlOf p)
    (hshort : (Text.bytes p.key).length + (Text.bytes (p.snapshot.getD "")).length +
      (Text.bytes (Decimal.intText p.expires)).length ≤ 21000) :
    parse l.target = .ok ⟨"/blob/signed".toList, some (i.queryOf p).write⟩ := by
  have hchars : ∀ c ∈ (i.queryOf p).write, Form.isQueryChar c = true := fun _ =>
    LinkQuery.isQueryChar_of_mem_write
  have htarget := Issuer.target_of_url_eq h hl
  have hascii : ∀ c ∈ l.target.toList, c.toNat < 0x80 := by
    intro c hc
    rw [htarget, List.mem_append, List.mem_cons] at hc
    rcases hc with hc | rfl | hc
    · exact of_decide_eq_true (List.all_eq_true.mp
        (by decide : "/blob/signed".toList.all (fun c => decide (c.toNat < 0x80)) = true) c hc)
    · decide
    · exact Form.toNat_lt_of_isQueryChar (hchars c hc)
  have hsignature : (Text.bytes (i.queryOf p).signature).length = 64 := by
    show (Text.bytes (Hex.text (Hmac.code i.secret p.octets))).length = 64
    rw [Hex.length_bytes_text, Hmac.length_code]
  have hwrite := LinkQuery.length_write_le (i.queryOf p) (Nat.le_of_eq hsignature)
  have hlength : (Text.bytes l.target).length = 13 + (i.queryOf p).write.length := by
    rw [Text.bytes, Utf8.encode_of_ascii hascii, List.length_map, htarget, List.length_append,
      List.length_cons, show "/blob/signed".toList.length = 12 from rfl]
    omega
  have hpayload : (i.queryOf p).payload = p := rfl
  rw [hpayload] at hwrite
  rw [parse_of_link htarget hchars, if_neg]
  rw [hlength, longest]
  omega

end Target

namespace Router

variable {σ : Type}

/-! ## Requests for one blob -/

/-- Asking for a link: `POST /blob/link/upload` or `POST /blob/link/download`. -/
def linkRequest (mode : Mode) (query : Option (List Char)) (body : Body) : Request :=
  ⟨"POST", ⟨("/blob/link/" ++ mode.word).toList, query⟩, body⟩

/-- Writing or reading a blob directly: `POST /blob` or `GET /blob`. -/
def directRequest (mode : Mode) (query : Option (List Char)) (body : Body) : Request :=
  ⟨match mode with
    | .upload => "POST"
    | .download => "GET", ⟨"/blob".toList, query⟩, body⟩

/-- Redeeming a link: `PUT` or `GET` of its path and query. -/
def redeemRequest (mode : Mode) (target : Target) (body : Body) : Request :=
  ⟨match mode with
    | .upload => "PUT"
    | .download => "GET", target, body⟩

/-- The endpoint of direct requests. -/
def directEndpoint : Mode → Endpoint
  | .upload => .upload
  | .download => .download

/-- The endpoint where links are redeemed. -/
def redeemEndpoint : Mode → Endpoint
  | .upload => .redeemUpload
  | .download => .redeemDownload

section Requests

variable {mode : Mode} {query : Option (List Char)} {body : Body} {target : Target}

theorem leadsTo_linkRequest : (linkRequest mode query body).LeadsTo (.link mode) := by
  cases mode <;> exact ⟨rfl, List.mem_singleton.mpr rfl⟩

theorem leadsTo_directRequest :
    (directRequest mode query body).LeadsTo (directEndpoint mode) := by
  cases mode with
  | upload => exact ⟨rfl, List.mem_singleton.mpr rfl⟩
  | download => exact ⟨rfl, List.mem_pair.mpr (.inl rfl)⟩

theorem leadsTo_redeemRequest (h : target.path = "/blob/signed".toList) :
    (redeemRequest mode target body).LeadsTo (redeemEndpoint mode) := by
  cases mode with
  | upload => exact ⟨h, List.mem_singleton.mpr rfl⟩
  | download => exact ⟨h, List.mem_pair.mpr (.inl rfl)⟩

theorem method_directRequest : (directRequest mode query body).method ≠ "HEAD" := by
  cases mode with
  | upload => exact (by decide : "POST" ≠ "HEAD")
  | download => exact (by decide : "GET" ≠ "HEAD")

theorem method_redeemRequest : (redeemRequest mode target body).method ≠ "HEAD" := by
  cases mode with
  | upload => exact (by decide : "PUT" ≠ "HEAD")
  | download => exact (by decide : "GET" ≠ "HEAD")

end Requests

/-! ## The same need -/

section Needs

variable {v : Vault σ} {limit : Nat} {now : Instant} {r r' : Request}

/-- **What it comes down to** to write or to read a blob, whichever way it was asked for. -/
def transferNeed (mode : Mode) (key : StorageKey) (limit : Nat) (body : Body) :
    Except Fault Need :=
  match mode with
  | .upload => (body.take limit).map (.put key)
  | .download => .ok (.get key)

theorem needed_direct {mode : Mode} {blob : BlobRef} {key : StorageKey}
    (hblob : readBlob r = .ok blob) (hkey : blob.resolve = .ok key) :
    needed v limit now r (directEndpoint mode) = transferNeed mode key limit r.body := by
  obtain ⟨p, hp, hblob⟩ := Except.exists_of_bind_eq_ok hblob
  cases mode with
  | upload =>
    simp only [directEndpoint, needed, transferNeed, hp, hblob, hkey, bind, Except.bind]
    cases r.body.take limit <;> rfl
  | download =>
    simp only [directEndpoint, needed, transferNeed, hp, hblob, hkey, bind, Except.bind]
    rfl

theorem needed_redeem {mode : Mode} {claims : Claims} {key : StorageKey}
    (hclaims : v.issuer.validateQuery (queryText r) mode now = .ok claims)
    (hkey : claims.key = key) :
    needed v limit now r (redeemEndpoint mode) = transferNeed mode key limit r.body := by
  subst hkey
  cases mode with
  | upload =>
    simp only [redeemEndpoint, needed, transferNeed, hclaims, bind, Except.bind]
    cases r.body.take limit <;> rfl
  | download =>
    simp only [redeemEndpoint, needed, transferNeed, hclaims]
    rfl

/-- **Requests with the same need** are answered alike, if neither asks for the head alone. -/
theorem seen_eq_of_needed {e e' : Endpoint} {now' : Instant} (h : r.LeadsTo e)
    (h' : r'.LeadsTo e') (hmethod : r.method ≠ "HEAD") (hmethod' : r'.method ≠ "HEAD")
    (hneeded : needed v limit now r e = needed v limit now' r' e') (s : σ) :
    (answer v limit now r s).seen = (answer v limit now' r' s).seen := by
  have hsent : sent r.method = sent r'.method := by
    funext response
    rw [sent, sent, if_neg hmethod, if_neg hmethod']
  have hsettle : ∀ o : Outcome σ Response, settle r.method o = settle r'.method o := fun o => by
    rw [settle, settle, hsent]
  rw [seen_of_endpoint v limit now r s h.of?.1 h.of?.2,
    seen_of_endpoint v limit now' r' s h'.of?.1 h'.of?.2,
    settle_eq_of_alike (alike_handle v limit now r e),
    settle_eq_of_alike (alike_handle v limit now' r' e'), hneeded, hsettle]

end Needs

/-! ## Redeeming a link -/

section Redemption

variable {v : Vault σ} {limit : Nat} {mode : Mode} {issued : Instant} {query : Option (List Char)}
  {unread : Body} {s₀ : σ}

/-- **A request for a link that succeeds** is answered with the link for the blob of its query. -/
theorem exists_link_of_answer
    (h : (answer v limit issued (linkRequest mode query unread) s₀).response.status = 200) :
    ∃ blob link, readBlob (linkRequest mode query unread) = .ok blob ∧
      v.linkFor mode blob none issued = .ok link ∧
      (answer v limit issued (linkRequest mode query unread) s₀).response =
        sent "POST" (.document 200 link.document) := by
  have hseen := seen_answer v limit issued (linkRequest mode query unread) s₀
  rw [need_of_leadsTo leadsTo_linkRequest] at hseen
  cases hneeded : needed v limit issued (linkRequest mode query unread) (.link mode) with
  | error fault =>
    rw [hneeded] at hseen
    have hresponse := (Prod.mk.inj hseen).1
    rw [hresponse, status_sent] at h
    exact absurd h fault.status_ne_ok
  | ok need =>
    obtain ⟨blob, link, hblob, hlink, rfl⟩ := of_needed hneeded
    rw [hneeded] at hseen
    exact ⟨blob, link, hblob, hlink, (Prod.mk.inj hseen).1⟩

/-- **Through a link or directly.** Where links lie right under the host, and asking for one with a
query succeeds, the answer is the document of the link for the blob of that query. If the path and
the query of this link are a request target, then until it expires redeeming it is answered as
asking directly with the first query is, from whatever state, and leaves the same state. -/
theorem redemption_eq_direct (hv : v.issuer.AtOrigin)
    (h : (answer v limit issued (linkRequest mode query unread) s₀).response.status = 200) :
    ∃ blob link, readBlob (linkRequest mode query unread) = .ok blob ∧
      v.linkFor mode blob none issued = .ok link ∧
      (answer v limit issued (linkRequest mode query unread) s₀).response =
        sent "POST" (.document 200 link.document) ∧
      ∀ target, Target.parse link.target = .ok target → ∀ s body now t, t ≤ link.expires →
        (answer v limit t (redeemRequest mode target body) s).seen =
          (answer v limit now (directRequest mode query body) s).seen := by
  obtain ⟨blob, link, hblob, hlink, hresponse⟩ := exists_link_of_answer h
  obtain ⟨hkey, -, -, hurl⟩ := Vault.of_linkFor hlink
  have hbase := (Issuer.base_of_atOrigin hv).1.1
  refine ⟨blob, link, hblob, hlink, hresponse, fun target htarget s body now t ht => ?_⟩
  -- the target is the path for redeeming and the query of the link
  rw [Target.parse_of_link (Issuer.target_of_url_eq hv hurl) fun _ =>
    LinkQuery.isQueryChar_of_mem_write] at htarget
  split at htarget
  · cases htarget
  · cases htarget
    have hclaims := Vault.validateQuery_of_linkFor hbase hlink mode t
    rw [if_pos rfl, if_neg fun hlt => hlt ht, Issuer.query_of_url_eq hbase hurl] at hclaims
    generalize (v.issuer.queryOf (Vault.payloadOf blob link)).write = q at hclaims ⊢
    have hredeem : needed v limit t (redeemRequest mode ⟨"/blob/signed".toList, some q⟩ body)
        (redeemEndpoint mode) = transferNeed mode link.key limit body := needed_redeem hclaims rfl
    have hdirect : needed v limit now (directRequest mode query body) (directEndpoint mode) =
        transferNeed mode link.key limit body := needed_direct hblob hkey
    exact seen_eq_of_needed (leadsTo_redeemRequest rfl) leadsTo_directRequest method_redeemRequest
      method_directRequest (hredeem.trans hdirect.symm) s

/-- A snapshot is written through a link that was asked for by its escaped names. -/
theorem redemption_eq_direct_of_sampleLink :
    ∃ (v : Vault Blobs) (query : Option (List Char)) (target : Target),
      v = Vault.inMemory Vault.sampleIssuer (.ofSeconds 600) ∧
      query = some "accountID=ac%6De&key=app.log&snapshot=2024-05".toList ∧
      (answer v 16 .zero (linkRequest .upload query (.whole [])) .empty).response =
        sent "POST" (.document 200 Vault.sampleLink.document) ∧
      Target.parse Vault.sampleLink.target = .ok target ∧
      ∀ body,
        (answer v 16 Vault.sampleLink.expires (redeemRequest .upload target body) .empty).seen =
        (answer v 16 .zero (directRequest .upload query body) .empty).seen := by
  let v := Vault.inMemory Vault.sampleIssuer (.ofSeconds 600)
  let query := some "accountID=ac%6De&key=app.log&snapshot=2024-05".toList
  have hv : v.issuer.AtOrigin := ⟨"https://logs.example", _, rfl, .inr rfl, rfl, rfl⟩
  have hok : (answer v 16 .zero (linkRequest .upload query (.whole [])) .empty).response.status =
      200 := by
    decide +kernel
  obtain ⟨blob, link, hblob, hlink, hresponse, hsame⟩ := redemption_eq_direct hv hok
  have hsample : readBlob (linkRequest .upload query (.whole [])) = .ok Vault.sampleBlob := by
    decide +kernel
  rw [hsample] at hblob
  cases hblob
  rw [Vault.linkFor_sampleBlob] at hlink
  cases hlink
  have hurl : Vault.sampleLink.url =
      Vault.sampleIssuer.urlOf ⟨"acme/app.log@2024-05", some "2024-05", .upload, 600000⟩ := rfl
  have htarget := Target.parse_of_short_link hv hurl (by decide)
  exact ⟨v, query, _, rfl, rfl, hresponse, htarget, fun body =>
    hsame _ htarget .empty body .zero _ (by decide)⟩

end Redemption

end Router

end Http

end LogVault
