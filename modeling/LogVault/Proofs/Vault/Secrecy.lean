import LogVault.Proofs.Digest.Signature
import LogVault.Proofs.Vault.Plan
import Mathlib.Data.List.Forall2

/-!
# LogVault.Proofs.Vault.Secrecy — two secrets, two runs, one journal

Two vaults that differ in their secrets alone are given the same calls, and where a link is redeemed
each is given the link that it issued itself. Then whoever reads the answers, the store and the
journal can tell the two runs apart by the signatures in the URLs of links, and by nothing else
(`alike_of_two_secrets`).

The reason is that a call comes down to the same plan in both vaults (`plan_alike`): the expiry of a
link knows nothing of the secret, and a link that comes back to its own issuer is judged by its mode
and the clock.
-/

namespace LogVault

/-! ## Signatures in URLs -/

/-- Digits need no escapes in a query. -/
theorem Form.encode_of_digits {s : String} (h : ∀ c ∈ s.toList, c ∈ Hex.digits) :
    encode s = s.toList := by
  have hall : Hex.digits.all (fun c => c.toNat < 0x80 && keeps (Utf8.octet c)) = true := by decide
  refine encode_of_keeps fun c hc => ?_
  have hc := List.all_eq_true.mp hall c (h c hc)
  rw [Bool.and_eq_true, decide_eq_true_eq] at hc
  exact hc

/-- **Two links that differ in their signatures alone**, which are the ends of their URLs. -/
structure SignedLink.SameButSignature (l m : SignedLink) : Prop where
  mode : l.mode = m.mode
  expires : l.expires = m.expires
  key : l.key = m.key
  url : ∃ front a b, l.url = front ++ "&signature=" ++ a ∧ m.url = front ++ "&signature=" ++ b ∧
    Hmac.IsSignature a ∧ Hmac.IsSignature b

namespace Issuer

/-- **Two issuers that differ in their secrets**, and in whether these are shared. -/
structure Peers (a b : Issuer) : Prop where
  base : a.base = b.base
  maxTtl : a.maxTtl = b.maxTtl

theorem peers_of_make {s t : Bytes} {publicUrl : String} {maxTtl : Duration} {a b : Issuer}
    (ha : make s publicUrl maxTtl = .ok a) (hb : make t publicUrl maxTtl = .ok b) :
    a.Peers b := by
  obtain ⟨-, base, hbase, rfl⟩ := make_eq_ok_iff.mp ha
  obtain ⟨-, _, hbase', rfl⟩ := make_eq_ok_iff.mp hb
  obtain rfl := Except.ok.inj (hbase.symm.trans hbase')
  exact ⟨rfl, rfl⟩

/-- The pairs of a link's query before its signature. -/
def unsignedPairs (p : Payload) : List (String × String) :=
  ("key", p.key) :: ((p.snapshot.map fun s => ("snapshot", s)).toList ++
    [("mode", p.mode.word), ("expires", Decimal.intText p.expires)])

/-- The URL of a link up to its signature. -/
def frontOf (base : Url) (p : Payload) : String :=
  String.ofList (base.writeStem ++ '?' :: Form.write (unsignedPairs p))

/-- **The signature ends the URL.** -/
theorem urlOf_eq_append_sign (i : Issuer) (p : Payload) :
    i.urlOf p = frontOf i.base p ++ "&signature=" ++ i.sign p := by
  have hpairs : (i.queryOf p).pairs = unsignedPairs p ++ [("signature", i.sign p)] := by
    simp only [LinkQuery.pairs, queryOf, unsignedPairs, List.cons_append, List.append_assoc,
      List.nil_append]
  have hsign : Form.encode (i.sign p) = (i.sign p).toList :=
    Form.encode_of_digits (Hmac.isSignature_sign _ _).2
  have hname : Form.encode "signature" = "signature".toList := by decide
  have hwrite : (i.queryOf p).write =
      Form.write (unsignedPairs p) ++ ("&signature=".toList ++ (i.sign p).toList) := by
    have hsome : unsignedPairs p ≠ [] := List.cons_ne_nil _ _
    rw [LinkQuery.write, hpairs, Form.write_concat hsome, Form.encodePair, hname, hsign]
    rfl
  have hurl : { i.base with query := some (i.queryOf p).write }.write =
      i.base.writeStem ++ '?' :: (i.queryOf p).write := rfl
  apply String.toList_inj.mp
  rw [urlOf, frontOf, String.toList_ofList, String.toList_append, String.toList_append,
    String.toList_ofList, hurl, hwrite]
  simp only [List.append_assoc, List.cons_append]

variable {a b : Issuer}

theorem Peers.expiry_eq (h : a.Peers b) (ttl : Duration) (now : Instant) :
    a.expiry ttl now = b.expiry ttl now := by
  unfold expiry
  rw [h.maxTtl]

theorem Peers.sameButSignature_urlOf (h : a.Peers b) (p : Payload) (mode : Mode)
    (expires : Instant) (key : StorageKey) :
    SignedLink.SameButSignature ⟨a.urlOf p, mode, expires, key⟩ ⟨b.urlOf p, mode, expires, key⟩ := by
  refine ⟨rfl, rfl, rfl, frontOf a.base p, a.sign p, b.sign p, a.urlOf_eq_append_sign p, ?_,
    Hmac.isSignature_sign _ _, Hmac.isSignature_sign _ _⟩
  rw [h.base]
  exact b.urlOf_eq_append_sign p

/-- **Two peers issue alike**: both refuse for one reason, or their links differ in their signatures
alone. -/
theorem Peers.cases_of_issue (h : a.Peers b) (key : StorageKey) (snapshot : Option String)
    (mode : Mode) (ttl : Duration) (now : Instant) :
    (∃ flaw, a.issue key snapshot mode ttl now = .error flaw ∧
      b.issue key snapshot mode ttl now = .error flaw) ∨
    ∃ l m, a.issue key snapshot mode ttl now = .ok l ∧ b.issue key snapshot mode ttl now = .ok m ∧
      l.SameButSignature m := by
  rw [issue, issue, h.expiry_eq]
  cases b.expiry ttl now with
  | error flaw => exact .inl ⟨flaw, rfl, rfl⟩
  | ok expires => exact .inr ⟨_, _, rfl, rfl, h.sameButSignature_urlOf _ _ _ _⟩

end Issuer

namespace Vault

variable {σ : Type}

/-! ## Alike but for signatures -/

/-- Results that are equal but for the signature of a link. -/
inductive ResultsAlike : Except Fault Answer → Except Fault Answer → Prop
  | equal (r : Except Fault Answer) : ResultsAlike r r
  | links {l m : SignedLink} (h : l.SameButSignature m) :
      ResultsAlike (.ok (.issued l)) (.ok (.issued m))

/-- **Two outcomes are alike**: the results are, and state and journal are the same. -/
structure OutcomesAlike (o p : Outcome σ Answer) : Prop where
  result : ResultsAlike o.result p.result
  state : o.state = p.state
  events : o.events = p.events

/-- Plans that are equal but for the signature of a link. -/
inductive Plan.Alike : Plan → Plan → Prop
  | equal (p : Plan) : Alike p p
  | links {l m : SignedLink} (h : l.SameButSignature m) : Alike (.issue (.ok l)) (.issue (.ok m))

/-- **What is written about a link** is the same for links that differ in their signatures. -/
theorem Plan.Alike.outcomesAlike {p q : Plan} (h : p.Alike q) (operation : Operation)
    (store : Backend σ) (s : σ) :
    OutcomesAlike (p.outcome operation store s) (q.outcome operation store s) := by
  cases h with
  | equal => exact ⟨.equal _, rfl, rfl⟩
  | @links l m h =>
    have hissued : Issuer.issuedNote l = Issuer.issuedNote m := by
      simp only [Issuer.issuedNote, h.mode, h.key, h.expires]
    have hnote : linkNote l = linkNote m := by
      simp only [linkNote, h.mode, h.key, h.expires]
    refine ⟨.links h, rfl, ?_⟩
    simp only [Plan.outcome, Vault.issued, Outcome.map, hissued, hnote]

/-! ## Calls that correspond -/

/-- A query in which a parameter is missing that every link has. -/
def MissesParameter (query : String) : Prop :=
  ∃ name ∈ ["key", "mode", "expires", "signature"], name ∉ (Form.read query).map (·.1)

/-- Such a query is the query of no link. -/
theorem MissesParameter.read?_eq_none {query : String} (h : MissesParameter query) :
    LinkQuery.read? query = none := by
  obtain ⟨name, hname, hmissing⟩ := h
  have hvalues := LinkQuery.valuesOf_eq_nil hmissing
  rw [LinkQuery.read?]
  cases hread : LinkQuery.ofPairs? (Form.read query) with
  | none => rfl
  | some q =>
    -- a query that is read has a value for each of the four names
    obtain ⟨hkey, -, hmode, ⟨e, hexpires, -⟩, -, hsignature⟩ :=
      LinkQuery.ofPairs?_eq_some_iff.mp hread
    simp only [List.mem_cons, List.not_mem_nil, or_false] at hname
    rcases hname with rfl | rfl | rfl | rfl
    · rw [hvalues] at hkey
      cases hkey
    · rw [hvalues] at hmode
      cases hmode
    · rw [hvalues] at hexpires
      cases hexpires
    · rw [hvalues] at hsignature
      cases hsignature

/-- **Queries that correspond** after some calls: those of the two links that one of these calls was
answered with, just as they were issued, or two that miss a parameter. -/
inductive QueriesCorrespond (v w : Vault σ) (earlier : List Call) : String → String → Prop
  | issued {mode : Mode} {blob : BlobRef} {ttl : Option Duration} {now : Instant}
      {l m : SignedLink} (hearlier : Call.link mode blob ttl now ∈ earlier)
      (hl : v.linkFor mode blob ttl now = .ok l) (hm : w.linkFor mode blob ttl now = .ok m) :
      QueriesCorrespond v w earlier l.query m.query
  | missing {q r : String} (hq : MissesParameter q) (hr : MissesParameter r) :
      QueriesCorrespond v w earlier q r

/-- **Runs that correspond**: call by call the same is asked for, and what is redeemed
corresponds. -/
inductive RunsCorrespond (v w : Vault σ) : List Call → List Call → Prop
  | start : RunsCorrespond v w [] []
  | upload {calls others : List Call} (h : RunsCorrespond v w calls others) (blob : BlobRef)
      (data : Bytes) :
      RunsCorrespond v w (calls ++ [.upload blob data]) (others ++ [.upload blob data])
  | download {calls others : List Call} (h : RunsCorrespond v w calls others) (blob : BlobRef) :
      RunsCorrespond v w (calls ++ [.download blob]) (others ++ [.download blob])
  | link {calls others : List Call} (h : RunsCorrespond v w calls others) (mode : Mode)
      (blob : BlobRef) (ttl : Option Duration) (now : Instant) :
      RunsCorrespond v w (calls ++ [.link mode blob ttl now]) (others ++ [.link mode blob ttl now])
  | redeemUpload {calls others : List Call} (h : RunsCorrespond v w calls others) {q r : String}
      (hqueries : QueriesCorrespond v w calls q r) (data : Bytes) (now : Instant) :
      RunsCorrespond v w (calls ++ [.redeemUpload q data now]) (others ++ [.redeemUpload r data now])
  | redeemDownload {calls others : List Call} (h : RunsCorrespond v w calls others) {q r : String}
      (hqueries : QueriesCorrespond v w calls q r) (now : Instant) :
      RunsCorrespond v w (calls ++ [.redeemDownload q now]) (others ++ [.redeemDownload r now])

/-- **Vaults that differ in their secrets**: over one store, with links under one URL that live for
the same times. -/
structure Peers (v w : Vault σ) : Prop where
  store : v.store = w.store
  defaultTtl : v.defaultTtl = w.defaultTtl
  issuer : v.issuer.Peers w.issuer
  hasBase : v.issuer.HasBase

section Peers

variable {v w : Vault σ}

theorem Peers.hasBase_other (h : v.Peers w) : w.issuer.HasBase := by
  obtain ⟨publicUrl, hbase⟩ := h.hasBase
  exact ⟨publicUrl, h.issuer.base ▸ hbase⟩

/-- Links for one blob differ in their signatures alone. -/
theorem Peers.sameButSignature (h : v.Peers w) {mode : Mode} {blob : BlobRef}
    {ttl : Option Duration} {now : Instant} {l m : SignedLink}
    (hl : v.linkFor mode blob ttl now = .ok l) (hm : w.linkFor mode blob ttl now = .ok m) :
    l.SameButSignature m := by
  obtain ⟨key, hkey, hl⟩ := Except.exists_of_bind_eq_ok hl
  obtain ⟨_, hkey', hm⟩ := Except.exists_of_bind_eq_ok hm
  obtain rfl := Except.ok.inj (hkey.symm.trans hkey')
  rw [← h.defaultTtl] at hm
  rcases h.issuer.cases_of_issue key blob.snapshot mode (ttl.getD v.defaultTtl) now with
    ⟨flaw, hv, -⟩ | ⟨l', m', hv, hw, hsame⟩
  · rw [hv] at hl
    cases hl
  · rw [hv] at hl
    rw [hw] at hm
    cases hl
    cases hm
    exact hsame

/-- **Queries that correspond are judged alike.** -/
theorem Peers.validateQuery_eq (h : v.Peers w) {earlier : List Call} {q r : String}
    (hqueries : QueriesCorrespond v w earlier q r) (requested : Mode) (t : Instant) :
    v.issuer.validateQuery q requested t = w.issuer.validateQuery r requested t := by
  cases hqueries with
  | issued hearlier hl hm =>
    have hsame := h.sameButSignature hl hm
    rw [validateQuery_of_linkFor h.hasBase hl, validateQuery_of_linkFor h.hasBase_other hm,
      hsame.expires, hsame.key]
  | missing hq hr =>
    rw [Issuer.validateQuery, Issuer.validateQuery, hq.read?_eq_none, hr.read?_eq_none]

/-- **A link is planned alike.** -/
theorem Peers.plan_link (h : v.Peers w) (mode : Mode) (blob : BlobRef) (ttl : Option Duration)
    (now : Instant) :
    (v.plan (.link mode blob ttl now)).Alike (w.plan (.link mode blob ttl now)) := by
  simp only [plan, ← h.defaultTtl]
  cases blob.resolve with
  | error fault => exact .equal _
  | ok key =>
    dsimp only
    rcases h.issuer.cases_of_issue key blob.snapshot mode (ttl.getD v.defaultTtl) now with
      ⟨flaw, hv, hw⟩ | ⟨l, m, hv, hw, hsame⟩
    · rw [hv, hw]
      exact .equal _
    · rw [hv, hw]
      exact .links hsame

/-! ## Runs -/

/-- How the calls of a run end, one after the other. -/
def outcomes (v : Vault σ) : σ → List Call → List (Outcome σ Answer)
  | _, [] => []
  | s, call :: rest => v.outcome s call :: v.outcomes (v.outcome s call).state rest

theorem outcomes_concat (v : Vault σ) (s : σ) (calls : List Call) (call : Call) :
    v.outcomes s (calls ++ [call]) = v.outcomes s calls ++ [v.outcome (v.stateAfter s calls) call] := by
  induction calls generalizing s with
  | nil => rfl
  | cons first rest ih =>
    show v.outcome s first :: v.outcomes _ (rest ++ [call]) = _
    rw [ih]
    rfl

/-- **One more call keeps two runs alike** if it comes down to plans that are. -/
theorem Peers.alike_concat (h : v.Peers w) {s : σ} {calls others : List Call} {call other : Call}
    (halike : List.Forall₂ OutcomesAlike (v.outcomes s calls) (w.outcomes s others) ∧
      v.stateAfter s calls = w.stateAfter s others)
    (hplan : (v.plan call).Alike (w.plan other)) (hoperation : call.operation = other.operation) :
    List.Forall₂ OutcomesAlike (v.outcomes s (calls ++ [call])) (w.outcomes s (others ++ [other])) ∧
      v.stateAfter s (calls ++ [call]) = w.stateAfter s (others ++ [other]) := by
  obtain ⟨houtcomes, hstate⟩ := halike
  have hlast : OutcomesAlike (v.outcome (v.stateAfter s calls) call)
      (w.outcome (w.stateAfter s others) other) := by
    rw [outcome_eq, outcome_eq, hstate, h.store, hoperation]
    exact hplan.outcomesAlike _ _ _
  rw [outcomes_concat, outcomes_concat, stateAfter_concat, stateAfter_concat]
  exact ⟨List.rel_append houtcomes (.cons hlast .nil), hlast.state⟩

/-- **Runs that correspond are alike**, call by call, and end in one state. -/
theorem Peers.alike (h : v.Peers w) {calls others : List Call}
    (hruns : RunsCorrespond v w calls others) (s : σ) :
    List.Forall₂ OutcomesAlike (v.outcomes s calls) (w.outcomes s others) ∧
      v.stateAfter s calls = w.stateAfter s others := by
  induction hruns with
  | start => exact ⟨.nil, rfl⟩
  | upload hruns blob data ih => exact h.alike_concat ih (.equal _) rfl
  | download hruns blob ih => exact h.alike_concat ih (.equal _) rfl
  | link hruns mode blob ttl now ih => exact h.alike_concat ih (h.plan_link mode blob ttl now) rfl
  | redeemUpload hruns hqueries data now ih =>
    refine h.alike_concat ih ?_ rfl
    simp only [plan, h.validateQuery_eq hqueries]
    exact .equal _
  | redeemDownload hruns hqueries now ih =>
    refine h.alike_concat ih ?_ rfl
    simp only [plan, h.validateQuery_eq hqueries]
    exact .equal _

end Peers

/-- **A secret shows in signatures alone.** Two vaults over one store that were made with two
secrets, and otherwise of the same, go through runs that correspond in the same way: every call gives
the same result but for the signature in the URL of a link, leaves the same state and writes the same
entries to the journal. -/
theorem alike_of_two_secrets {store : Backend σ} {defaultTtl maxTtl : Duration} {secret other : Bytes}
    {publicUrl : String} {a b : Issuer} (ha : Issuer.make secret publicUrl maxTtl = .ok a)
    (hb : Issuer.make other publicUrl maxTtl = .ok b) {calls others : List Call}
    (hruns : RunsCorrespond ⟨store, a, defaultTtl⟩ ⟨store, b, defaultTtl⟩ calls others) (s : σ) :
    List.Forall₂ OutcomesAlike (Vault.outcomes ⟨store, a, defaultTtl⟩ s calls)
        (Vault.outcomes ⟨store, b, defaultTtl⟩ s others) ∧
      Vault.stateAfter ⟨store, a, defaultTtl⟩ s calls =
        Vault.stateAfter ⟨store, b, defaultTtl⟩ s others := by
  have hpeers : Peers ⟨store, a, defaultTtl⟩ ⟨store, b, defaultTtl⟩ :=
    ⟨rfl, rfl, Issuer.peers_of_make ha hb, Issuer.hasBase_of_make ha⟩
  exact hpeers.alike hruns s

/-- Two vaults in memory with links under `https://logs.example`: a link is issued and redeemed, and
a query without a key is refused. -/
theorem alike_of_two_secrets_of_redeemed_link :
    ∃ (v w : Vault Blobs) (l m : SignedLink), v.issuer.secret = [1, 2, 3] ∧ w.issuer.secret = [4] ∧
      v.linkFor .upload sampleBlob none .zero = .ok l ∧
      w.linkFor .upload sampleBlob none .zero = .ok m ∧
      List.Forall₂ OutcomesAlike
        (v.outcomes .empty [.link .upload sampleBlob none .zero, .redeemUpload l.query [7] .zero,
          .redeemDownload "mode=download" .zero])
        (w.outcomes .empty [.link .upload sampleBlob none .zero, .redeemUpload m.query [7] .zero,
          .redeemDownload "mode=download" .zero]) := by
  obtain ⟨a, ha⟩ : ∃ a, a = sampleIssuer := ⟨_, rfl⟩
  obtain ⟨b, hb⟩ : ∃ b, b = { sampleIssuer with secret := [4] } := ⟨_, rfl⟩
  have hmakeA : Issuer.make [1, 2, 3] "https://logs.example" (.ofSeconds 3600) = .ok a := by
    rw [ha]
    rfl
  have hmakeB : Issuer.make [4] "https://logs.example" (.ofSeconds 3600) = .ok b := by
    rw [hb]
    rfl
  have hl : (inMemory a (.ofSeconds 600)).linkFor .upload sampleBlob none .zero =
      .ok { sampleLink with url := a.urlOf (payloadOf sampleBlob sampleLink) } := by
    rw [ha]
    rfl
  have hm : (inMemory b (.ofSeconds 600)).linkFor .upload sampleBlob none .zero =
      .ok { sampleLink with url := b.urlOf (payloadOf sampleBlob sampleLink) } := by
    rw [hb]
    rfl
  have hpairs : [("mode", "download")] ≠ [] := List.cons_ne_nil _ _
  have hwritten := Form.read_text hpairs
  have hread : Form.read "mode=download" = [("mode", "download")] := hwritten
  have hmissing : MissesParameter "mode=download" := ⟨"key", by decide, by rw [hread]; decide⟩
  have hruns := (((RunsCorrespond.start (v := inMemory a (.ofSeconds 600))
    (w := inMemory b (.ofSeconds 600))).link .upload sampleBlob none .zero).redeemUpload
      (.issued List.mem_cons_self hl hm) [7] .zero).redeemDownload (.missing hmissing hmissing) .zero
  refine ⟨_, _, _, _, ?_, ?_, hl, hm, (alike_of_two_secrets hmakeA hmakeB hruns .empty).1⟩
  · rw [inMemory, ha]
    rfl
  · rw [inMemory, hb]

end Vault

end LogVault
