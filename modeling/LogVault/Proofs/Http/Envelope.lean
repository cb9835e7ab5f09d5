import LogVault.Proofs.Http.Run
import LogVault.Proofs.Json.Document

/-!
# LogVault.Proofs.Http.Envelope — what answers give away

Every request that leads to an endpoint is answered in the envelope, however the store answers: with
the headers that forbid caching, one kind of content and one of six statuses. A request that fails is
answered with the document of its fault's public message, whatever characters that has, and with
nothing else.

The public message of an internal fault is always the same. So of two stores that differ in the
details of internal faults, nobody can tell one from the other by the answers
(`enveloped_and_without_details`).
-/

namespace LogVault

/-! ## Faults without details -/

/-- A fault as callers may know it. -/
def Fault.withoutDetail : Fault → Fault
  | .internal _ => .internal ""
  | fault => fault

theorem Fault.status_withoutDetail (fault : Fault) : fault.withoutDetail.status = fault.status := by
  cases fault <;> rfl

theorem Fault.publicMessage_withoutDetail (fault : Fault) :
    fault.withoutDetail.publicMessage = fault.publicMessage := by
  cases fault <;> rfl

/-- The statuses of successes and of faults. -/
def statuses : List Nat := [200, 400, 403, 404, 413, 500]

theorem Fault.status_mem_statuses (fault : Fault) : fault.status ∈ statuses := by
  cases fault <;> simp [status, statuses]

section Details

variable {σ τ α β : Type}

/-- **Outcomes that differ in details**: both succeed alike or fail for one cause, an internal one
with any details, and leave corresponding states. -/
def Outcome.SameButDetail (R : σ → τ → Prop) (o : Outcome σ α) (p : Outcome τ α) : Prop :=
  o.result.mapError Fault.withoutDetail = p.result.mapError Fault.withoutDetail ∧ R o.state p.state

theorem Outcome.SameButDetail.map {R : σ → τ → Prop} {o : Outcome σ α} {p : Outcome τ α}
    (h : o.SameButDetail R p) (f : α → β) : (o.map f).SameButDetail R (p.map f) := by
  have hcomm : ∀ x : Except Fault α,
      (x.map f).mapError Fault.withoutDetail = (x.mapError Fault.withoutDetail).map f := by
    rintro (_ | _) <;> rfl
  refine ⟨?_, h.2⟩
  rw [map_result, map_result, hcomm, hcomm, h.1]

/-- **Stores that differ in details**: in corresponding states they do the same, but say different
things about their internal faults. -/
structure Backend.SameButDetail (R : σ → τ → Prop) (b : Backend σ) (c : Backend τ) : Prop where
  name : b.name = c.name
  put : ∀ key data s t, R s t → ((b.put key data).run s).SameButDetail R ((c.put key data).run t)
  get : ∀ key s t, R s t → ((b.get key).run s).SameButDetail R ((c.get key).run t)

/-- A store that can do nothing, and says why. -/
def Backend.failing (detail : String) : Backend σ :=
  ⟨"failing", fun _ _ => Action.fail (.internal detail), fun _ => Action.fail (.internal detail)⟩

theorem Backend.sameButDetail_failing (R : σ → τ → Prop) (d e : String) :
    (failing d).SameButDetail R (failing e) :=
  ⟨rfl, fun _ _ _ _ hstates => ⟨rfl, hstates⟩, fun _ _ _ hstates => ⟨rfl, hstates⟩⟩

end Details

namespace Http

/-! ## Documents in answers -/

/-- The document that octets spell. -/
def readDocument? (octets : Bytes) : Option Json.Value := (Utf8.decode? octets).bind Json.parse

/-- **Documents in answers are read back.** -/
theorem readDocument?_documentOctets {v : Json.Value} (h : v.Reads) :
    readDocument? (documentOctets v) = some v := by
  rw [readDocument?, documentOctets, Utf8.decode?_encode, Option.bind_some,
    Json.parse_pretty_append h]

theorem reads_errorDocument (message : String) : (Response.errorDocument message).Reads :=
  Json.reads_object fun m hm => by
    rw [List.mem_singleton.mp hm]
    exact Json.reads_text message

/-- An object ends with its bracket, and the answer with one line end. -/
theorem documentOctets_object (ms : List (String × Json.Value)) :
    ∃ front, documentOctets (.object ms) = front ++ [0x7D, 0x0A] := by
  obtain ⟨l, hl⟩ : ∃ l, (Json.Value.object ms).pretty = l ++ ['\x7d'] := by
    cases ms with
    | nil =>
      refine ⟨['\x7b'], ?_⟩
      simp only [Json.Value.pretty, Json.Value.prettyAt, Json.Value.leaf]
      rfl
    | cons m ms =>
      refine ⟨'\x7b' :: (Json.line 1 ++ Json.writeText m.1 ++ ':' :: ' ' :: m.2.prettyAt 1 ++
        Json.prettyMembers 1 ms ++ Json.line 0), ?_⟩
      simp only [Json.Value.pretty, Json.Value.prettyAt, List.cons_append]
  refine ⟨l.flatMap String.utf8EncodeChar, ?_⟩
  rw [documentOctets, hl, List.flatMap_append, List.flatMap_append, List.append_assoc]
  rfl

/-- **An answer spells a document**: its octets are the document, with one line end behind it. -/
structure Response.Spells (r : Response) (v : Json.Value) : Prop where
  document : readDocument? r.body = some v
  lineEnd : ∃ front, r.body = front ++ [0x0A] ∧ front.getLast? ≠ some 0x0A

theorem Response.spells_error (status : Nat) (message : String) :
    (Response.error status message).Spells (errorDocument message) := by
  obtain ⟨front, hfront⟩ := documentOctets_object [("error_msg", .text message)]
  refine ⟨readDocument?_documentOctets (reads_errorDocument message), front ++ [0x7D], ?_, ?_⟩
  · rw [List.append_assoc]
    exact hfront
  · rw [List.getLast?_concat]
    decide

namespace Router

variable {σ τ : Type}

/-! ## The envelope -/

/-- **An answer is in the envelope** that stands for the result of a request. -/
structure Enveloped (method : String) (result : Except Fault Response) (response : Response) :
    Prop where
  headers : ∃ contentType length, response.headers =
    Response.noCache ++ [("content-type", contentType), ("content-length", length)] ∧
      (response.status ≠ 200 → contentType = Response.documentType)
  status : response.status ∈ statuses
  succeeded : response.status = 200 ↔ ∃ x, result = .ok x
  failed : ∀ fault, result = .error fault → response.status = fault.status ∧
    (method ≠ "HEAD" → response.Spells (Response.errorDocument fault.publicMessage))

theorem headers_sent (method contentType : String) (status : Nat) (body : Bytes) :
    (sent method (.envelope status contentType body)).headers = Response.noCache ++
      [("content-type", contentType), ("content-length", Decimal.natText body.length)] := by
  unfold sent
  split <;> exact List.append_assoc ..

theorem body_sent {method : String} (h : method ≠ "HEAD") (response : Response) :
    (sent method response).body = response.body := by
  rw [sent, if_neg h]
  rfl

theorem enveloped_of_envelope (method contentType : String) (body : Bytes) :
    Enveloped method (.ok (.envelope 200 contentType body))
      (sent method (.envelope 200 contentType body)) := by
  have hstatus : (sent method (.envelope 200 contentType body)).status = 200 := status_sent ..
  refine ⟨⟨_, _, headers_sent .., fun h => absurd hstatus h⟩, ?_, iff_of_true hstatus ⟨_, rfl⟩,
    fun _ h => by cases h⟩
  rw [hstatus]
  decide

theorem enveloped_ofFault (method : String) (fault : Fault) :
    Enveloped method (.error fault) (sent method (.ofFault fault)) := by
  have hstatus : (sent method (.ofFault fault)).status = fault.status := status_sent ..
  refine ⟨⟨_, _, headers_sent .., fun _ => rfl⟩, ?_, ?_, fun other hother => ?_⟩
  · rw [hstatus]
    exact fault.status_mem_statuses
  · rw [hstatus]
    exact iff_of_false fault.status_ne_ok fun ⟨_, h⟩ => by cases h
  · cases hother
    refine ⟨hstatus, fun hmethod => ?_⟩
    obtain ⟨hdocument, hlineEnd⟩ := Response.spells_error fault.status fault.publicMessage
    have hbody := body_sent hmethod (.ofFault fault)
    exact ⟨hbody ▸ hdocument, hbody ▸ hlineEnd⟩

section Handle

variable {v : Vault σ} {limit : Nat} {now : Instant} {r : Request} {endpoint : Endpoint}

/-- What needs nothing of the store is answered with a document. -/
theorem exists_document_of_needed {response : Response}
    (h : needed v limit now r endpoint = .ok (.nothing response)) :
    ∃ document, response = .document 200 document := by
  have hneed := of_needed h
  cases endpoint with
  | upload =>
    obtain ⟨_, _, -, -, -, hput⟩ := hneed
    cases hput
  | download =>
    obtain ⟨_, _, -, -, hget⟩ := hneed
    cases hget
  | link mode =>
    obtain ⟨_, link, -, -, hnothing⟩ := hneed
    cases hnothing
    exact ⟨_, rfl⟩
  | redeemUpload =>
    obtain ⟨_, -, -, hput⟩ := hneed
    cases hput
  | redeemDownload =>
    obtain ⟨_, -, hget⟩ := hneed
    cases hget
  | health =>
    obtain ⟨document, hnothing⟩ := hneed
    cases hnothing
    exact ⟨document, rfl⟩

/-- **Success comes in an envelope**, whatever the store says. -/
theorem exists_envelope_of_handle {s : σ} {response : Response}
    (h : ((handle v limit now r endpoint).run s).result = .ok response) :
    ∃ contentType body, response = .envelope 200 contentType body := by
  rw [(alike_handle v limit now r endpoint s).1] at h
  cases hneeded : needed v limit now r endpoint with
  | error fault =>
    rw [hneeded] at h
    cases h
  | ok need =>
    rw [hneeded] at h
    change ((need.meet v.store).run s).result = .ok response at h
    cases need with
    | nothing settled =>
      obtain ⟨document, rfl⟩ := exists_document_of_needed hneeded
      cases h
      exact ⟨_, _, rfl⟩
    | put key data =>
      obtain ⟨_, -, rfl⟩ := Action.exists_of_map_eq_ok h
      exact ⟨_, _, rfl⟩
    | get key =>
      obtain ⟨_, -, rfl⟩ := Action.exists_of_map_eq_ok h
      exact ⟨_, _, rfl⟩

/-- **Every answer of an endpoint** is in the envelope. -/
theorem enveloped_answer (h : r.LeadsTo endpoint) (s : σ) :
    Enveloped r.method ((handle v limit now r endpoint).run s).result
      (answer v limit now r s).response := by
  obtain ⟨hroute, hendpoint⟩ := h.of?
  have hresponse : (answer v limit now r s).response =
      sent r.method (Exchange.ofOutcome ((handle v limit now r endpoint).run s)).response := by
    simp only [answer, hroute, hendpoint]
  rw [hresponse]
  cases hresult : ((handle v limit now r endpoint).run s).result with
  | ok response =>
    obtain ⟨contentType, body, rfl⟩ := exists_envelope_of_handle hresult
    simp only [Exchange.ofOutcome, hresult]
    exact enveloped_of_envelope ..
  | error fault =>
    simp only [Exchange.ofOutcome, hresult]
    exact enveloped_ofFault ..

end Handle

/-! ## Two stores -/

/-- The answer to a fault keeps its detail to itself. -/
theorem ofFault_withoutDetail (fault : Fault) :
    Response.ofFault fault.withoutDetail = .ofFault fault := by
  rw [Response.ofFault, Response.ofFault, fault.status_withoutDetail,
    fault.publicMessage_withoutDetail]

theorem settle_of_sameButDetail {R : σ → τ → Prop} {method : String} {o : Outcome σ Response}
    {p : Outcome τ Response} (h : o.SameButDetail R p) :
    (settle method o).1 = (settle method p).1 ∧ R (settle method o).2 (settle method p).2 := by
  obtain ⟨⟨x, s, events⟩, ⟨y, t, entries⟩⟩ := o, p
  obtain ⟨hresult, hstate⟩ := h
  refine ⟨?_, hstate⟩
  cases x with
  | ok x =>
    cases y with
    | ok y =>
      cases hresult
      rfl
    | error g => cases hresult
  | error f =>
    cases y with
    | ok y => cases hresult
    | error g =>
      have hfault : f.withoutDetail = g.withoutDetail := Except.error.inj hresult
      have hanswer : Response.ofFault f = .ofFault g := by
        rw [← ofFault_withoutDetail, hfault, ofFault_withoutDetail]
      show sent method (.ofFault f) = sent method (.ofFault g)
      rw [hanswer]

section Stores

variable {b : Backend σ} {c : Backend τ} {R : σ → τ → Prop} (issuer : Issuer) (ttl : Duration)
  (limit : Nat)

/-- What a request needs does not depend on the store, but for its name. -/
theorem need_of_name (h : b.name = c.name) (now : Instant) (r : Request) :
    need ⟨b, issuer, ttl⟩ limit now r = need ⟨c, issuer, ttl⟩ limit now r := by
  have hneeded : needed ⟨b, issuer, ttl⟩ limit now r = needed ⟨c, issuer, ttl⟩ limit now r := by
    funext endpoint
    cases endpoint with
    | health => simp only [needed, h]
    | _ => rfl
  simp only [need, hneeded]

theorem reply_of_sameButDetail (h : b.SameButDetail R c) (method : String) {s : σ} {t : τ}
    (hstates : R s t) (need : Need) :
    (need.reply b method s).1 = (need.reply c method t).1 ∧
      R (need.reply b method s).2 (need.reply c method t).2 := by
  cases need with
  | nothing response => exact ⟨rfl, hstates⟩
  | put key data =>
    have hput := (h.put key data s t hstates).map fun _ =>
      Response.document 200 (receipt key data.length)
    simp only [Need.reply, Need.meet, Action.run_map]
    exact settle_of_sameButDetail hput
  | get key =>
    have hget := (h.get key s t hstates).map (Response.blob 200)
    simp only [Need.reply, Need.meet, Action.run_map]
    exact settle_of_sameButDetail hget

/-- **One request** is answered alike over stores that differ in details. -/
theorem answer_of_sameButDetail (h : b.SameButDetail R c) (now : Instant) (r : Request) {s : σ}
    {t : τ} (hstates : R s t) :
    (answer ⟨b, issuer, ttl⟩ limit now r s).response =
        (answer ⟨c, issuer, ttl⟩ limit now r t).response ∧
      R (answer ⟨b, issuer, ttl⟩ limit now r s).state
        (answer ⟨c, issuer, ttl⟩ limit now r t).state := by
  have hreply := reply_of_sameButDetail h r.method hstates (need ⟨b, issuer, ttl⟩ limit now r)
  have hb := seen_answer ⟨b, issuer, ttl⟩ limit now r s
  have hc := seen_answer ⟨c, issuer, ttl⟩ limit now r t
  rw [← need_of_name issuer ttl limit h.name] at hc
  rw [← hb, ← hc] at hreply
  exact hreply

theorem exchanges_of_sameButDetail (h : b.SameButDetail R c) {s : σ} {t : τ} (hstates : R s t)
    (run : List (Instant × Request)) :
    exchanges ⟨b, issuer, ttl⟩ limit s run = exchanges ⟨c, issuer, ttl⟩ limit t run := by
  induction run generalizing s t with
  | nil => rfl
  | cons asked rest ih =>
    obtain ⟨now, r⟩ := asked
    obtain ⟨hresponse, hafter⟩ := answer_of_sameButDetail issuer ttl limit h now r hstates
    rw [exchanges, exchanges, hresponse, ih hafter]

end Stores

end Router

end Http

end LogVault
