import LogVault.Command.Execute
import LogVault.Proofs.Http.Run

/-!
# LogVault.Proofs.Command.Agreement — the command line and HTTP agree

A command about a blob and a request for the same names come down to one operation of the vault. So
the command succeeds just if the request is answered with 200, both leave the same world, what is
printed is the body of the answer, and a fault is reported on standard error in the octets of the body
that answers it (`agrees_execute_answer`).

Each way is taken apart once: a command is its operation and then the printing (`run_print`), a
request is its operation and then the envelope. What the operation does is not looked at, so the
vault may have any store.
-/

namespace LogVault.StoreCommand

open Http (Request Response)
open Http.Router (answer handle settle sent queryText readParams seen_of_endpoint)

/-! ## The same thing asked for in two ways -/

/-- The blob that a command names. -/
def blob : StoreCommand → BlobRef
  | .download blob _ => blob
  | .downloadLink blob _ => blob
  | .upload blob _ => blob
  | .uploadLink blob _ => blob

/-- Where a request for the same thing leads. -/
def endpoint : StoreCommand → Http.Endpoint
  | .download _ _ => .download
  | .downloadLink _ _ => .link .download
  | .upload _ _ => .upload
  | .uploadLink _ _ => .link .upload

/-- **A command without wishes of its own**: a download is printed, and a link lives for the usual
time. Where an upload comes from is free. -/
def Plain : StoreCommand → Prop
  | .download _ output => output = none
  | .downloadLink _ seconds => seconds = none
  | .upload _ _ => True
  | .uploadLink _ seconds => seconds = none

/-- **A request asks for what a command does**: it leads to the same endpoint, it asks for more than
the head, and its query reads as the same names. -/
structure AskedBy (c : StoreCommand) (r : Request) : Prop where
  leads : r.LeadsTo c.endpoint
  whole : r.method ≠ "HEAD"
  names : Http.Params.ofQuery (queryText r) =
    .ok ⟨some c.blob.account, some c.blob.key, c.blob.snapshot⟩

/-- **An upload has the octets of a whole body**, from standard input or from a file, and they are not
too many. Other commands take none. -/
def Supplies (c : StoreCommand) (input : Except String Bytes) (w : World) (limit : Nat)
    (body : Http.Body) : Prop :=
  match c with
  | .upload _ file => ∃ data, body = .whole data ∧ data.length ≤ limit ∧
      supply input w.disk.files file = .ok data
  | _ => True

/-! ## What agrees -/

/-- **A command that is done agrees with an answer**, where `printed` was printed before. -/
structure Agrees (printed : Bytes) (done : Outcome Desk Unit) (response : Response)
    (world : World) : Prop where
  success : done.result = .ok () ↔ response.status = 200
  world : done.state.world = world
  output : done.result = .ok () → done.state.printed = printed ++ response.body
  errors : ∀ fault, done.result = .error fault →
    (Launch.reportOf done.state.printed done.result).errors = response.body

section Operation

variable {α : Type} (a : Action World α) {octets : α → Bytes} (w : World) (printed : Bytes)

theorem run_inWorld : (inWorld a).run ⟨w, printed⟩ =
    ⟨(a.run w).result, ⟨(a.run w).state, printed⟩, (a.run w).events⟩ := rfl

/-- An operation and then the printing of what it answers. -/
theorem run_print :
    (inWorld a >>= fun x => print (octets x)).run ⟨w, printed⟩ =
      match (a.run w).result with
      | .ok x => ⟨.ok (), ⟨(a.run w).state, printed ++ octets x⟩, (a.run w).events ++ []⟩
      | .error fault => ⟨.error fault, ⟨(a.run w).state, printed⟩, (a.run w).events⟩ := by
  have hrun := run_inWorld a w printed
  cases hresult : (a.run w).result with
  | ok x =>
    rw [hresult] at hrun
    rw [Action.run_bind_ok hrun]
    rfl
  | error fault =>
    rw [hresult] at hrun
    rw [Action.run_bind_error hrun]

/-- **One operation, printed and answered.** The answer to success has status 200 and holds what is
printed. -/
theorem agrees_of_operation (respond : α → Response) (hstatus : ∀ x, (respond x).status = 200)
    (hbody : ∀ x, (respond x).body = octets x) {method : String} (hmethod : method ≠ "HEAD") :
    Agrees printed ((inWorld a >>= fun x => print (octets x)).run ⟨w, printed⟩)
      (settle method ((respond <$> a).run w)).1 (settle method ((respond <$> a).run w)).2 := by
  -- only the answer to HEAD is sent without its body
  have hsent : ∀ response : Response, sent method response = response.measured := by
    intro response
    rw [sent, if_neg hmethod]
  rw [run_print, settle, Action.run_map]
  cases hresult : (a.run w).result with
  | ok x =>
    simp only [Outcome.map, hresult, Except.map, Http.Router.Exchange.ofOutcome, hsent]
    refine ⟨?_, rfl, ?_, ?_⟩
    · show _ ↔ (respond x).status = 200
      simp [hstatus]
    · intro _
      show printed ++ octets x = printed ++ (respond x).body
      rw [hbody]
    · intro fault hfault
      cases hfault
  | error fault =>
    simp only [Outcome.map, hresult, Except.map, Http.Router.Exchange.ofOutcome, hsent]
    refine ⟨?_, rfl, ?_, ?_⟩
    · show _ ↔ fault.status = 200
      simp [fault.status_ne_ok]
    · intro hok
      cases hok
    · intro other hother
      cases hother
      rfl

end Operation

/-! ## Requests as one operation -/

section Requests

variable {v : Vault World} {limit : Nat} {now : Instant} {r : Request} {p : Http.Params}
  {blob : BlobRef}

theorem handle_download (hp : readParams r = .ok p) (hblob : p.blobRef = .ok blob) (w : World) :
    (handle v limit now r .download).run w = (Response.blob 200 <$> v.download blob).run w := by
  rw [handle, Http.Router.params_eq, hp]
  show (Action.ofExcept p.blobRef >>= _).run w = _
  rw [hblob]
  rfl

theorem handle_link (hp : readParams r = .ok p) (hblob : p.blobRef = .ok blob) (mode : Mode)
    (w : World) :
    (handle v limit now r (.link mode)).run w =
      ((fun link => Response.document 200 link.document) <$> v.link mode blob none now).run w := by
  rw [handle, Http.Router.params_eq, hp]
  show (Action.ofExcept p.blobRef >>= _).run w = _
  rw [hblob]
  rfl

theorem handle_upload {data : Bytes} (hp : readParams r = .ok p) (hblob : p.blobRef = .ok blob)
    (hbody : r.body.take limit = .ok data) (w : World) :
    (handle v limit now r .upload).run w =
      ((fun key => Response.document 200 (receipt key data.length)) <$> v.upload blob data).run w := by
  rw [handle, Http.Router.params_eq, hp, hbody]
  show (Action.ofExcept p.blobRef >>= _).run w = _
  rw [hblob]
  rfl

end Requests

/-! ## Commands and requests -/

section Commands

variable {v : Vault World} {limit : Nat} {now : Instant} {r : Request} {input : Except String Bytes}
  {w : World} {c : StoreCommand}

/-- Where the secret is shared, printing a link is issuing it and printing. -/
theorem printLink_eq (hshared : v.issuer.ephemeral = false) (mode : Mode) (blob : BlobRef)
    (seconds : Option Nat) :
    printLink v mode blob seconds now =
      inWorld (v.link mode (named blob) (seconds.map Duration.ofSeconds) now) >>= fun link =>
        print (Http.documentOctets link.document) := by
  rw [printLink, requireSharedSecret, hshared]
  rfl

theorem run_fetch (input : Except String Bytes) (file : Option String) (desk : Desk) :
    (fetch input file).run desk = ⟨supply input desk.world.disk.files file, desk, []⟩ := rfl

/-- An upload is writing what was supplied, and printing the receipt. -/
theorem execute_upload {blob : BlobRef} {file : Option String} {data : Bytes}
    (h : supply input w.disk.files file = .ok data) (printed : Bytes) :
    (execute v input now (.upload blob file)).run ⟨w, printed⟩ =
      (inWorld (v.upload (named blob) data) >>= fun key =>
        print (Http.documentOctets (receipt key data.length))).run ⟨w, printed⟩ := by
  have hrun : (fetch input file).run ⟨w, printed⟩ = ⟨.ok data, ⟨w, printed⟩, []⟩ := by
    rw [run_fetch, h]
  rw [execute, Action.run_bind_ok hrun, List.nil_append]

/-- **The command line and HTTP agree.** Where the secret for links is shared, a plain command and a
request for the same names, an upload having the octets of the body, agree at every instant and in
every world: in success, in what they leave, in what is printed and answered, and in how a fault is
reported. -/
theorem agrees_execute_answer (hshared : v.issuer.ephemeral = false) (hplain : c.Plain)
    (hasked : c.AskedBy r) (hbody : c.Supplies input w limit r.body) (printed : Bytes) :
    Agrees printed ((c.execute v input now).run ⟨w, printed⟩)
      (answer v limit now r w).response (answer v limit now r w).state := by
  have hp : readParams r = .ok ⟨some c.blob.account, some c.blob.key, c.blob.snapshot⟩ := by
    rw [readParams, hasked.names]
    rfl
  have hblob : Http.Params.blobRef ⟨some c.blob.account, some c.blob.key, c.blob.snapshot⟩ =
      .ok (named c.blob) := rfl
  -- the request is taken down to what its endpoint does
  obtain ⟨hroute, hendpoint⟩ := hasked.leads.of?
  have hseen := seen_of_endpoint v limit now r w hroute hendpoint
  obtain ⟨hresponse, hstate⟩ := Prod.mk.inj hseen
  rw [hresponse, hstate]
  -- and each command to the same operation of the vault
  cases c with
  | download blob output =>
    obtain rfl : output = none := hplain
    rw [endpoint, handle_download hp hblob]
    exact agrees_of_operation _ w printed (.blob 200) (fun _ => rfl) (fun _ => rfl) hasked.whole
  | downloadLink blob seconds =>
    obtain rfl : seconds = none := hplain
    rw [endpoint, handle_link hp hblob, execute, printLink_eq hshared]
    exact agrees_of_operation _ w printed (fun link : SignedLink => .document 200 link.document)
      (fun _ => rfl) (fun _ => rfl) hasked.whole
  | upload blob file =>
    obtain ⟨data, hwhole, hlength, hsupply⟩ := hbody
    have htaken : r.body.take limit = .ok data := by
      rw [hwhole]
      exact Http.Body.take_eq_ok_iff.mpr ⟨rfl, hlength, rfl⟩
    rw [endpoint, handle_upload hp hblob htaken, execute_upload hsupply]
    exact agrees_of_operation _ w printed (fun key => .document 200 (receipt key data.length))
      (fun _ => rfl) (fun _ => rfl) hasked.whole
  | uploadLink blob seconds =>
    obtain rfl : seconds = none := hplain
    rw [endpoint, handle_link hp hblob, execute, printLink_eq hshared]
    exact agrees_of_operation _ w printed (fun link : SignedLink => .document 200 link.document)
      (fun _ => rfl) (fun _ => rfl) hasked.whole

/-- A snapshot that is given and empty: the command and the request write the same blob, though the
request spells its account with an escape. -/
theorem agrees_execute_answer_of_empty_snapshot :
    ∃ (v : Vault World) (c : StoreCommand) (r : Request),
      v = ⟨World.memoryStore, Vault.sampleIssuer, .ofSeconds 600⟩ ∧
      c = .upload ⟨"acme", "app.log", some ""⟩ none ∧
      r = ⟨"POST", ⟨"/blob".toList, some "accountID=ac%6De&key=app.log&snapshot=".toList⟩,
        .whole [7, 8]⟩ ∧
      v.issuer.ephemeral = false ∧ c.Plain ∧ c.AskedBy r ∧
      c.Supplies (.ok [7, 8]) .empty 2 r.body ∧
      ((c.execute v (.ok [7, 8]) .zero).run ⟨.empty, []⟩).result = .ok () ∧
      ((c.execute v (.ok [7, 8]) .zero).run ⟨.empty, []⟩).state.printed =
        (answer v 2 .zero r .empty).response.body := by
  let v : Vault World := ⟨World.memoryStore, Vault.sampleIssuer, .ofSeconds 600⟩
  let c : StoreCommand := .upload ⟨"acme", "app.log", some ""⟩ none
  let r : Request :=
    ⟨"POST", ⟨"/blob".toList, some "accountID=ac%6De&key=app.log&snapshot=".toList⟩, .whole [7, 8]⟩
  have hasked : c.AskedBy r :=
    ⟨⟨rfl, List.mem_singleton.mpr rfl⟩, by decide, by decide +kernel⟩
  have hplain : c.Plain := trivial
  have hsupplies : c.Supplies (.ok [7, 8]) .empty 2 r.body := ⟨[7, 8], rfl, by decide, rfl⟩
  have hagrees : Agrees [] ((c.execute v (.ok [7, 8]) .zero).run ⟨.empty, []⟩)
      (answer v 2 .zero r .empty).response (answer v 2 .zero r .empty).state :=
    agrees_execute_answer rfl hplain hasked hsupplies []
  have hanswered : (answer v 2 .zero r .empty).response.status = 200 := by decide +kernel
  have hdone := hagrees.success.mpr hanswered
  refine ⟨v, c, r, rfl, rfl, rfl, rfl, hplain, hasked, hsupplies, hdone, ?_⟩
  rw [hagrees.output hdone, List.nil_append]

end Commands

end LogVault.StoreCommand
