import LogVault.Proofs.Storage.Access
import LogVault.Proofs.Vault.Run

/-!
# LogVault.Proofs.Vault.Plan — what a call comes down to before the store is asked

A call is refused because no key is found for it, or it issues a link, or it hands one access to the
store. Which of these it is (`Vault.plan`) is up to the call and the issuer alone; a plan and a store
then decide the outcome, the journal included (`Vault.outcome_eq`). So what holds of every plan over
every store holds of every call.
-/

namespace LogVault.Vault

variable {σ α β γ : Type}

/-! ## Outcomes with another answer -/

theorem transferred_map (operation : Operation) (text : α → String) (answer : α → β) (f : β → γ)
    (o : Outcome σ α) :
    (transferred operation text answer o).map f = transferred operation text (f ∘ answer) o := by
  unfold transferred
  cases o.result <;> rfl

/-- What the store is asked for can be put as one kind of answer. -/
theorem transferred_of_map (operation : Operation) (text : β → String) (answer : β → γ) (f : α → β)
    (o : Outcome σ α) :
    transferred operation text answer (o.map f) =
      transferred operation (text ∘ f) (answer ∘ f) o := by
  obtain ⟨result, state, events⟩ := o
  cases result <;> rfl

/-! ## Plans -/

/-- The operation that a call is. -/
def Call.operation : Call → Operation
  | .upload _ _ => .upload
  | .download _ => .download
  | .link mode _ _ _ => linkOperation mode
  | .redeemUpload _ _ _ => .redeemUpload
  | .redeemDownload _ _ => .redeemDownload

/-- **What a call comes down to**: no key is found for it, or it issues a link or fails to, or it
hands one access to the store, with a note and an answer for what that gives. -/
inductive Plan where
  | refuse (entries : List Event) (fault : Fault)
  | issue (link : Except Issuer.TtlFlaw SignedLink)
  | transfer (access : Access) (text : Option Bytes → String) (answer : Option Bytes → Answer)

/-- An operation that found its key and then issued a link, or failed to. -/
def issued (operation : Operation) (link : Except Issuer.TtlFlaw SignedLink) (s : σ) :
    Outcome σ SignedLink :=
  match link with
  | .ok link =>
    ⟨.ok link, s, [.reached operation .received, .reached operation .keyResolved,
      .note .debug (Issuer.issuedNote link), .reached operation .linkIssued,
      .note .info (linkNote link), .reached operation .completed]⟩
  | .error flaw =>
    ⟨.error flaw.fault, s, [.reached operation .received, .reached operation .keyResolved,
      .failed operation flaw.fault]⟩

/-- **The outcome of a plan** over a store. -/
def Plan.outcome (operation : Operation) (store : Backend σ) (s : σ) : Plan → Outcome σ Answer
  | .refuse entries fault => refused operation entries fault s
  | .issue link => (Vault.issued operation link s).map .issued
  | .transfer access text answer =>
    transferred operation text answer ((store.serve access).run s)

/-- Putting a blob and naming its key. -/
def putPlan (key : StorageKey) (data : Bytes) (tail : String) : Plan :=
  .transfer (.put key data) (fun _ => transferNote "Uploaded" data.length "to" key tail)
    fun _ => .stored key

/-- Getting a blob. -/
def getPlan (key : StorageKey) (tail : String) : Plan :=
  .transfer (.get key)
    (fun data => transferNote "Downloaded" (data.getD []).length "from" key tail)
    fun data => .content (data.getD [])

/-- The tail of the note of a redemption. -/
def viaLink : String := " via signed link"

/-- **The plan of a call.** -/
def plan (v : Vault σ) : Call → Plan
  | .upload blob data =>
    match blob.resolve with
    | .ok key => putPlan key data ""
    | .error fault => .refuse [] fault
  | .download blob =>
    match blob.resolve with
    | .ok key => getPlan key ""
    | .error fault => .refuse [] fault
  | .link mode blob ttl now =>
    match blob.resolve with
    | .ok key => .issue (v.issuer.issue key blob.snapshot mode (ttl.getD v.defaultTtl) now)
    | .error fault => .refuse [] fault
  | .redeemUpload query data now =>
    match v.issuer.validateQuery query .upload now with
    | .ok claims => putPlan claims.key data viaLink
    | .error rejection => .refuse rejection.entries rejection.fault
  | .redeemDownload query now =>
    match v.issuer.validateQuery query .download now with
    | .ok claims => getPlan claims.key viaLink
    | .error rejection => .refuse rejection.entries rejection.fault

section Outcome

variable (operation : Operation) (store : Backend σ) (s : σ) (key : StorageKey) (tail : String)

theorem outcome_putPlan (data : Bytes) :
    (putPlan key data tail).outcome operation store s =
      (transferred operation (fun _ => transferNote "Uploaded" data.length "to" key tail)
        (fun _ => key) ((store.put key data).run s)).map .stored := by
  rw [transferred_map]
  show transferred operation _ _ (Action.run (_ <$> store.put key data) s) = _
  rw [Action.run_map, transferred_of_map]
  rfl

theorem outcome_getPlan :
    (getPlan key tail).outcome operation store s =
      (transferred operation (fun data => transferNote "Downloaded" data.length "from" key tail) id
        ((store.get key).run s)).map .content := by
  rw [transferred_map]
  show transferred operation _ _ (Action.run (some <$> store.get key) s) = _
  rw [Action.run_map, transferred_of_map]
  rfl

end Outcome

/-- **A call does what its plan says.** -/
theorem outcome_eq (v : Vault σ) (s : σ) (call : Call) :
    v.outcome s call = (v.plan call).outcome call.operation v.store s := by
  cases call with
  | upload blob data =>
    simp only [outcome, perform, Action.run_map, run_upload, plan]
    cases blob.resolve with
    | ok key => exact (outcome_putPlan _ _ _ _ _ data).symm
    | error fault => rfl
  | download blob =>
    simp only [outcome, perform, Action.run_map, run_download, plan]
    cases blob.resolve with
    | ok key => exact (outcome_getPlan _ _ _ _ _).symm
    | error fault => rfl
  | link mode blob ttl now =>
    simp only [outcome, perform, Action.run_map, run_link, linkFor, linkEntries, plan]
    cases blob.resolve with
    | ok key =>
      simp only [Except.bind, Plan.outcome, Vault.issued, Call.operation]
      cases v.issuer.issue key blob.snapshot mode (ttl.getD v.defaultTtl) now <;> rfl
    | error fault => rfl
  | redeemUpload query data now =>
    simp only [outcome, perform, Action.run_map, run_redeemUpload, plan]
    cases v.issuer.validateQuery query .upload now with
    | ok claims => exact (outcome_putPlan _ _ _ _ _ data).symm
    | error rejection => rfl
  | redeemDownload query now =>
    simp only [outcome, perform, Action.run_map, run_redeemDownload, plan]
    cases v.issuer.validateQuery query .download now with
    | ok claims => exact (outcome_getPlan _ _ _ _ _).symm
    | error rejection => rfl

end LogVault.Vault
