import LogVault.Proofs.Vault.Plan
import LogVault.World
import Mathlib.Data.List.Basic

/-!
# LogVault.Proofs.Vault.Phases — how far an operation has come is in the journal

Every operation goes one way: it is received, its key is resolved, its transfer is in flight or its
link is issued, and it is completed. A step that fails cuts this way off, and the journal says so in
its last entry; no entry reports an end before that. Whatever stands in the journal about phases
names the one operation, and the store is asked at most once, after the transfer was reported to be
in flight (`follows_protocol`).

The store may answer as it likes. It writes notes to the journal and no phases, as every store does
that settings can name (`keepsToNotes_of_openStore`).
-/

namespace LogVault

/-! ## The way of an operation -/

/-- The phases that entries report, in order. -/
def Event.phases (events : List Event) : List Phase := events.filterMap Event.phase?

/-- A note: an entry that belongs to no operation and reports no phase. -/
def Event.IsNote (e : Event) : Prop := e.operation? = none ∧ e.phase? = none

/-- An entry that reports an end. -/
def Event.Ends (e : Event) : Prop := e.phase? = some .completed ∨ e.phase? = some .failed

theorem Event.isNote_note (level : Level) (message : String) : (note level message).IsNote :=
  ⟨rfl, rfl⟩

theorem Event.IsNote.not_ends {e : Event} (h : e.IsNote) : ¬ e.Ends := by
  rintro (hend | hend) <;> rw [h.2] at hend <;> cases hend

/-- Notes report no phases. -/
theorem Event.phases_notes {notes : List Event} (h : ∀ e ∈ notes, e.IsNote) :
    phases notes = [] :=
  List.filterMap_eq_nil_iff.mpr fun e he => (h e he).2

theorem Event.phases_append (l m : List Event) : phases (l ++ m) = phases l ++ phases m :=
  List.filterMap_append

theorem Issuer.Rejection.isNote_of_mem_entries {r : Rejection} {e : Event} (h : e ∈ r.entries) :
    e.IsNote := by
  rw [Rejection.entries] at h
  cases hnote : r.note? with
  | none =>
    rw [hnote] at h
    exact absurd h List.not_mem_nil
  | some text =>
    rw [hnote] at h
    rw [List.mem_singleton.mp h]
    exact Event.isNote_note _ _

namespace Operation

/-- The phase that stands for the work of an operation. -/
def work : Operation → Phase
  | .uploadLink => .linkIssued
  | .downloadLink => .linkIssued
  | _ => .transferInFlight

/-- **The way of an operation** that nothing stops. -/
def way (operation : Operation) : List Phase :=
  [.received, .keyResolved, operation.work, .completed]

/-- **A step that can fail**: finding the key, or the work at it. -/
inductive Step where
  | finding
  | working
  deriving Repr, DecidableEq

/-- How many phases of its way an operation has come to before a step is done. A transfer is
reported to be in flight before the store is asked, a link to be issued only when there is one. -/
def reachedBefore (operation : Operation) : Step → Nat
  | .finding => 1
  | .working => if operation.work = .linkIssued then 2 else 3

end Operation

/-! ## Stores and the journal -/

section Stores

variable {σ τ : Type}

/-- **A store keeps to notes** in the journal. -/
structure Backend.KeepsToNotes (b : Backend σ) : Prop where
  put : ∀ key data s, ∀ e ∈ ((b.put key data).run s).events, e.IsNote
  get : ∀ key s, ∀ e ∈ ((b.get key).run s).events, e.IsNote

theorem Backend.KeepsToNotes.within {b : Backend σ} (h : b.KeepsToNotes) (view : τ → σ)
    (update : σ → τ → τ) : (b.within view update).KeepsToNotes :=
  ⟨fun key data t => h.put key data (view t), fun key t => h.get key (view t)⟩

theorem Backend.KeepsToNotes.serve {b : Backend σ} (h : b.KeepsToNotes) (access : Access) (s : σ) :
    ∀ e ∈ ((b.serve access).run s).events, e.IsNote := by
  cases access with
  | put key data =>
    rw [Backend.serve, Action.run_map]
    exact h.put key data s
  | get key =>
    rw [Backend.serve, Action.run_map]
    exact h.get key s

theorem Blobs.keepsToNotes_backend : Blobs.backend.KeepsToNotes := by
  refine ⟨fun key data b e he => absurd he List.not_mem_nil, fun key b e he => ?_⟩
  simp only [Action.run, Blobs.backend] at he
  split at he <;> exact absurd he List.not_mem_nil

theorem Directory.keepsToNotes_backend (root : String) (names : Nat → String) :
    (Directory.backend root names).KeepsToNotes := by
  refine ⟨fun key data disk e he => ?_, fun key disk e he => ?_⟩
  · simp only [Action.run, Directory.backend] at he
    split at he
    · rw [List.mem_singleton.mp he]
      exact Event.isNote_note _ _
    · exact absurd he List.not_mem_nil
  · simp only [Action.run, Directory.backend] at he
    split at he <;> exact absurd he List.not_mem_nil

theorem Bucket.isNote_of_mem_putOutcome {bucket : String} {key : StorageKey} {data : Bytes} {s : σ}
    {given : Except ClientFlaw StoreReply} {e : Event}
    (he : e ∈ (putOutcome bucket key data s given).events) : e.IsNote := by
  cases given with
  | error flaw =>
    rw [List.mem_singleton.mp he]
    exact Event.isNote_note _ _
  | ok reply =>
    rw [putOutcome] at he
    split at he <;> rw [List.mem_singleton.mp he] <;> exact Event.isNote_note _ _

theorem Bucket.isNote_of_mem_getOutcome {key : StorageKey} {s : σ}
    {given : Except ClientFlaw StoreReply} {e : Event}
    (he : e ∈ (getOutcome key s given).events) : e.IsNote := by
  cases given with
  | error flaw =>
    rw [getOutcome] at he
    split at he
    · exact absurd he List.not_mem_nil
    · rw [List.mem_singleton.mp he]
      exact Event.isNote_note _ _
  | ok reply =>
    rw [getOutcome] at he
    split at he
    · exact absurd he List.not_mem_nil
    · split at he
      · exact absurd he List.not_mem_nil
      · rw [List.mem_singleton.mp he]
        exact Event.isNote_note _ _

theorem Bucket.keepsToNotes_backendOver (client : StoreClient σ) (bucket : String) :
    (backendOver client bucket).KeepsToNotes :=
  ⟨fun _ _ _ _ he => isNote_of_mem_putOutcome he, fun _ _ _ he => isNote_of_mem_getOutcome he⟩

/-- **Settings name one of three stores.** -/
theorem World.cases_of_openStore {settings : StorageSettings} {w : World} {store : Backend World}
    (h : ((openStore settings).run w).result = .ok store) :
    store = memoryStore ∨ store = directoryStore settings.path ∨ ∃ e, store = bucketStore e := by
  by_cases hmemory : settings.provider = "memory"
  · have hopen : openStore settings =
        fun w => ⟨.ok memoryStore, { w with blobs := .empty }, []⟩ := if_pos hmemory
    rw [hopen] at h
    exact .inl (Except.ok.inj h).symm
  by_cases hdirectory : settings.provider = "filesystem"
  · have hopen : openStore settings =
        prepareDirectory settings.path >>= fun _ => pure (directoryStore settings.path) :=
      (if_neg hmemory).trans (if_pos hdirectory)
    rw [hopen] at h
    obtain ⟨_, _, _, -, hstore⟩ := Action.exists_of_bind_eq_ok h
    exact .inr (.inl (Except.ok.inj hstore).symm)
  by_cases hbucket : settings.provider = "s3" ∧ ¬ settings.bucket.isEmpty
  · have hopen : openStore settings = openBucket settings :=
      ((if_neg hmemory).trans (if_neg hdirectory)).trans
        ((if_pos hbucket.1).trans (if_neg hbucket.2))
    rw [hopen] at h
    obtain ⟨e, -, hstore⟩ := Except.exists_of_map_eq_ok h
    exact .inr (.inr ⟨e, hstore.symm⟩)
  · -- no such provider, or no bucket
    obtain ⟨fault, hopen⟩ : ∃ fault, openStore settings = Action.fail fault := by
      by_cases hprovider : settings.provider = "s3"
      · have hnone : settings.bucket.isEmpty := not_not.mp fun hsome => hbucket ⟨hprovider, hsome⟩
        exact ⟨_, ((if_neg hmemory).trans (if_neg hdirectory)).trans
          ((if_pos hprovider).trans (if_pos hnone))⟩
      · exact ⟨_, ((if_neg hmemory).trans (if_neg hdirectory)).trans (if_neg hprovider)⟩
    rw [hopen] at h
    cases h

/-- **Every store that settings name** keeps to notes. -/
theorem World.keepsToNotes_of_openStore {settings : StorageSettings} {w : World}
    {store : Backend World} (h : ((openStore settings).run w).result = .ok store) :
    store.KeepsToNotes := by
  rcases cases_of_openStore h with rfl | rfl | ⟨e, rfl⟩
  · exact Blobs.keepsToNotes_backend.within _ _
  · exact (Directory.keepsToNotes_backend _ _).within _ _
  · exact (Bucket.keepsToNotes_backendOver _ _).within _ _

/-- **A store that leaves a mark** in the journal as soon as it is asked for something, and does as
before. -/
def Backend.marking (b : Backend σ) (mark : Access → Event) : Backend σ where
  name := b.name
  put key data := Action.record (mark (.put key data)) >>= fun _ => b.put key data
  get key := Action.record (mark (.get key)) >>= fun _ => b.get key

theorem Backend.serve_marking (b : Backend σ) (mark : Access → Event) (access : Access) (s : σ) :
    ((b.marking mark).serve access).run s =
      ⟨((b.serve access).run s).result, ((b.serve access).run s).state,
        mark access :: ((b.serve access).run s).events⟩ := by
  cases access with
  | put key data =>
    simp only [serve, Action.run_map, marking, Action.run_bind_ok (Action.run_record _ s)]
    rfl
  | get key =>
    simp only [serve, Action.run_map, marking, Action.run_bind_ok (Action.run_record _ s)]
    rfl

end Stores

namespace Vault

variable {σ α β : Type}

/-! ## The journal of one operation -/

/-- **The journal of an operation** that, if it fails, has come to `reached` phases of its way. -/
structure Traced (operation : Operation) (reached : Nat) (o : Outcome σ α) : Prop where
  completed : ∀ x, o.result = .ok x → Event.phases o.events = operation.way
  failed : ∀ fault, o.result = .error fault →
    Event.phases o.events = operation.way.take reached ++ [.failed]
  closed : ∃ front last, o.events = front ++ [last] ∧
    (∀ e ∈ front, ¬ e.Ends) ∧
    ((∃ x, o.result = .ok x ∧ last = .reached operation .completed) ∨
      ∃ fault, o.result = .error fault ∧ last = .failed operation fault)
  named : ∀ e ∈ o.events, e.IsNote ∨ e.operation? = some operation

section Traced

variable {operation : Operation}

theorem Traced.map {reached : Nat} {o : Outcome σ α} (h : Traced operation reached o) (f : α → β) :
    Traced operation reached (o.map f) := by
  obtain ⟨result, state, events⟩ := o
  obtain ⟨completed, failed, ⟨front, last, hevents, hfront, hlast⟩, named⟩ := h
  cases result with
  | ok x =>
    refine ⟨fun _ _ => completed x rfl, fun fault hfault => (by cases hfault),
      ⟨front, last, hevents, hfront, ?_⟩, named⟩
    obtain ⟨_, -, hlast⟩ | ⟨_, hresult, -⟩ := hlast
    · exact .inl ⟨f x, rfl, hlast⟩
    · cases hresult
  | error fault =>
    refine ⟨fun _ hok => (by cases hok), fun other hother => failed other (by cases hother; rfl),
      ⟨front, last, hevents, hfront, ?_⟩, named⟩
    obtain ⟨_, hresult, -⟩ | ⟨other, hresult, hlast⟩ := hlast
    · cases hresult
    · exact .inr ⟨other, by cases hresult; rfl, hlast⟩

/-- An operation that finds no key. -/
theorem traced_refused {entries : List Event} (h : ∀ e ∈ entries, e.IsNote) (fault : Fault)
    (s : σ) : Traced operation 1 (refused operation entries fault s : Outcome σ α) := by
  refine ⟨fun _ hok => (by cases hok), fun _ _ => ?_, ?_, ?_⟩
  · show Event.phases ([.reached operation .received] ++ (entries ++ [.failed operation fault])) = _
    rw [Event.phases_append, Event.phases_append, Event.phases_notes h]
    rfl
  · refine ⟨.reached operation .received :: entries, .failed operation fault, rfl, ?_,
      .inr ⟨fault, rfl, rfl⟩⟩
    intro e he
    rcases List.mem_cons.mp he with rfl | he
    · simp [Event.Ends, Event.phase?]
    · exact (h e he).not_ends
  · intro e he
    rcases List.mem_cons.mp he with rfl | he
    · exact .inr rfl
    rcases List.mem_append.mp he with he | he
    · exact .inl (h e he)
    · rw [List.mem_singleton.mp he]
      exact .inr rfl

/-- An operation that issues a link or fails to. -/
theorem traced_issued (hwork : operation.work = .linkIssued)
    (link : Except Issuer.TtlFlaw SignedLink) (s : σ) :
    Traced operation 2 (issued operation link s) := by
  cases link with
  | ok link =>
    refine ⟨fun _ _ => ?_, fun _ hfault => (by cases hfault), ?_, ?_⟩
    · rw [Operation.way, hwork]
      rfl
    · refine ⟨[.reached operation .received, .reached operation .keyResolved,
        .note .debug (Issuer.issuedNote link), .reached operation .linkIssued,
        .note .info (linkNote link)], _, rfl, ?_, .inl ⟨link, rfl, rfl⟩⟩
      simp [Event.Ends, Event.phase?]
    · simp [issued, Event.IsNote, Event.operation?, Event.phase?]
  | error flaw =>
    refine ⟨fun _ hok => (by cases hok), fun _ _ => rfl, ?_, ?_⟩
    · refine ⟨[.reached operation .received, .reached operation .keyResolved], _, rfl, ?_,
        .inr ⟨flaw.fault, rfl, rfl⟩⟩
      simp [Event.Ends, Event.phase?]
    · simp [issued, Event.IsNote, Event.operation?]

/-- An operation that comes to the store. -/
theorem traced_transferred (hwork : operation.work = .transferInFlight) {o : Outcome σ α}
    (h : ∀ e ∈ o.events, e.IsNote) (text : α → String) (answer : α → β) :
    Traced operation 3 (transferred operation text answer o) := by
  obtain ⟨result, state, entries⟩ := o
  have hphases : Event.phases entries = [] := Event.phases_notes h
  -- what stands before the last entry: three phases, and the notes of the store
  have hfront : ∀ e ∈ underway operation ++ entries, ¬ e.Ends := by
    intro e he
    rcases List.mem_append.mp he with he | he
    · simp only [underway, List.mem_cons, List.not_mem_nil, or_false] at he
      rcases he with rfl | rfl | rfl <;> simp [Event.Ends, Event.phase?]
    · exact (h e he).not_ends
  have hnamed : ∀ e ∈ underway operation ++ entries, e.IsNote ∨ e.operation? = some operation := by
    intro e he
    rcases List.mem_append.mp he with he | he
    · simp only [underway, List.mem_cons, List.not_mem_nil, or_false] at he
      rcases he with rfl | rfl | rfl <;> exact .inr rfl
    · exact .inl (h e he)
  cases result with
  | ok x =>
    have hevents : (transferred operation text answer ⟨.ok x, state, entries⟩).events =
        (underway operation ++ entries) ++
          [.note .info (text x), .reached operation .completed] := (List.append_assoc ..).symm
    refine ⟨fun _ _ => ?_, fun _ hfault => (by cases hfault), ?_, ?_⟩
    · rw [hevents, Event.phases_append, Event.phases_append, hphases, Operation.way, hwork]
      rfl
    · refine ⟨(underway operation ++ entries) ++ [.note .info (text x)], _,
        hevents.trans (List.append_assoc _ [_] [_]).symm, ?_, .inl ⟨answer x, rfl, rfl⟩⟩
      intro e he
      rcases List.mem_append.mp he with he | he
      · exact hfront e he
      · rw [List.mem_singleton.mp he]
        exact (Event.isNote_note _ _).not_ends
    · intro e he
      rw [hevents] at he
      rcases List.mem_append.mp he with he | he
      · exact hnamed e he
      · rcases List.mem_pair.mp he with rfl | rfl
        · exact .inl (Event.isNote_note _ _)
        · exact .inr rfl
  | error fault =>
    have hevents : (transferred operation text answer ⟨.error fault, state, entries⟩).events =
        (underway operation ++ entries) ++ [.failed operation fault] := (List.append_assoc ..).symm
    refine ⟨fun _ hok => (by cases hok), fun _ _ => ?_, ?_, ?_⟩
    · rw [hevents, Event.phases_append, Event.phases_append, hphases, Operation.way, hwork]
      rfl
    · exact ⟨_, _, hevents, hfront, .inr ⟨fault, rfl, rfl⟩⟩
    · intro e he
      rw [hevents] at he
      rcases List.mem_append.mp he with he | he
      · exact hnamed e he
      · rw [List.mem_singleton.mp he]
        exact .inr rfl

end Traced

/-! ## When the store is asked -/

/-- The vault over its store while that leaves marks. -/
def marking (v : Vault σ) (mark : Access → Event) : Vault σ :=
  { v with store := v.store.marking mark }

/-- **The store is asked at most once, and in flight**: there is one place in the journal of the call
where the marks of the store would stand, for at most one access, and that the transfer is in flight
stands before it. -/
def AsksInFlight (v : Vault σ) (s : σ) (call : Call) : Prop :=
  ∃ before asked after, (v.outcome s call).events = before ++ after ∧ asked.length ≤ 1 ∧
    (asked ≠ [] → .reached call.operation .transferInFlight ∈ before) ∧
    ∀ mark, (v.marking mark).outcome s call =
      { v.outcome s call with events := before ++ (asked.map mark ++ after) }

theorem plan_marking (v : Vault σ) (mark : Access → Event) (call : Call) :
    (v.marking mark).plan call = v.plan call := by
  cases call <;> rfl

theorem asksInFlight (v : Vault σ) (s : σ) (call : Call) : v.AsksInFlight s call := by
  have hmarked : ∀ mark, (v.marking mark).outcome s call =
      (v.plan call).outcome call.operation (v.store.marking mark) s := fun mark => by
    rw [outcome_eq, plan_marking]
    rfl
  unfold AsksInFlight
  simp only [hmarked, outcome_eq v s call]
  cases v.plan call with
  | refuse entries fault =>
    exact ⟨_, [], [], (List.append_nil _).symm, Nat.zero_le 1, fun h => absurd rfl h,
      fun mark => by simp only [List.map_nil, List.append_nil]; rfl⟩
  | issue link =>
    exact ⟨_, [], [], (List.append_nil _).symm, Nat.zero_le 1, fun h => absurd rfl h,
      fun mark => by simp only [List.map_nil, List.append_nil]; rfl⟩
  | transfer access text answer =>
    simp only [Plan.outcome, Backend.serve_marking]
    have hflight : .reached call.operation .transferInFlight ∈ underway call.operation := by
      simp [underway]
    cases ((v.store.serve access).run s) with
    | mk result t entries =>
      cases result <;>
        exact ⟨underway call.operation, [access], _, rfl, Nat.le_refl 1, fun _ => hflight,
          fun mark => rfl⟩

/-! ## Every call -/

/-- The key that is found for a call. -/
def keyFor (v : Vault σ) : Call → Except Fault StorageKey
  | .upload blob _ => blob.resolve
  | .download blob => blob.resolve
  | .link _ blob _ _ => blob.resolve
  | .redeemUpload query _ now =>
    ((v.issuer.validateQuery query .upload now).map Claims.key).mapError Issuer.Rejection.fault
  | .redeemDownload query now =>
    ((v.issuer.validateQuery query .download now).map Claims.key).mapError Issuer.Rejection.fault

/-- The step at which a call fails, if it fails. -/
def failingStep (v : Vault σ) (call : Call) : Operation.Step :=
  match v.keyFor call with
  | .ok _ => .working
  | .error _ => .finding

/-- **A call follows the protocol.** -/
structure Protocol (v : Vault σ) (s : σ) (call : Call) : Prop where
  traced : Traced call.operation (call.operation.reachedBefore (v.failingStep call))
    (v.outcome s call)
  unfound : ∀ fault, v.keyFor call = .error fault → (v.outcome s call).result = .error fault
  asked : v.AsksInFlight s call

/-- **What plans have to do with keys**: a call is refused just if no key is found for it, and what
it does with its key is the work of its operation. -/
theorem cases_of_plan (v : Vault σ) (call : Call) :
    (∃ entries fault, v.plan call = .refuse entries fault ∧ (∀ e ∈ entries, e.IsNote) ∧
      v.keyFor call = .error fault) ∨
    ∃ key, v.keyFor call = .ok key ∧
      ((∃ link, v.plan call = .issue link ∧ call.operation.work = .linkIssued) ∨
        ∃ access text answer, v.plan call = .transfer access text answer ∧
          call.operation.work = .transferInFlight) := by
  cases call with
  | upload blob data =>
    simp only [plan, keyFor]
    cases blob.resolve with
    | ok key => exact .inr ⟨key, rfl, .inr ⟨_, _, _, rfl, rfl⟩⟩
    | error fault => exact .inl ⟨[], fault, rfl, fun _ h => absurd h List.not_mem_nil, rfl⟩
  | download blob =>
    simp only [plan, keyFor]
    cases blob.resolve with
    | ok key => exact .inr ⟨key, rfl, .inr ⟨_, _, _, rfl, rfl⟩⟩
    | error fault => exact .inl ⟨[], fault, rfl, fun _ h => absurd h List.not_mem_nil, rfl⟩
  | link mode blob ttl now =>
    simp only [plan, keyFor]
    cases blob.resolve with
    | ok key => exact .inr ⟨key, rfl, .inl ⟨_, rfl, by cases mode <;> rfl⟩⟩
    | error fault => exact .inl ⟨[], fault, rfl, fun _ h => absurd h List.not_mem_nil, rfl⟩
  | redeemUpload query data now =>
    simp only [plan, keyFor]
    cases v.issuer.validateQuery query .upload now with
    | ok claims => exact .inr ⟨claims.key, rfl, .inr ⟨_, _, _, rfl, rfl⟩⟩
    | error rejection =>
      exact .inl ⟨_, _, rfl, fun _ => Issuer.Rejection.isNote_of_mem_entries, rfl⟩
  | redeemDownload query now =>
    simp only [plan, keyFor]
    cases v.issuer.validateQuery query .download now with
    | ok claims => exact .inr ⟨claims.key, rfl, .inr ⟨_, _, _, rfl, rfl⟩⟩
    | error rejection =>
      exact .inl ⟨_, _, rfl, fun _ => Issuer.Rejection.isNote_of_mem_entries, rfl⟩

/-- **Every call follows the protocol**, over every store that keeps to notes, however that answers,
in every state and at every instant. -/
theorem follows_protocol {v : Vault σ} (h : v.store.KeepsToNotes) (s : σ) (call : Call) :
    v.Protocol s call := by
  rcases cases_of_plan v call with
    ⟨entries, fault, hplan, hentries, hkey⟩ | ⟨key, hkey, ⟨link, hplan, hwork⟩ |
      ⟨access, text, answer, hplan, hwork⟩⟩
  · have houtcome : v.outcome s call = refused call.operation entries fault s := by
      rw [outcome_eq, hplan]
      rfl
    refine ⟨?_, fun other hother => ?_, asksInFlight v s call⟩
    · rw [failingStep, hkey, houtcome]
      exact traced_refused hentries fault s
    · rw [hkey] at hother
      cases hother
      rw [houtcome]
      rfl
  · refine ⟨?_, fun fault hfault => ?_, asksInFlight v s call⟩
    · rw [failingStep, hkey, outcome_eq, hplan]
      show Traced _ (if call.operation.work = .linkIssued then 2 else 3) _
      rw [if_pos hwork]
      exact (traced_issued hwork link s).map _
    · rw [hkey] at hfault
      cases hfault
  · refine ⟨?_, fun fault hfault => ?_, asksInFlight v s call⟩
    · rw [failingStep, hkey, outcome_eq, hplan]
      show Traced _ (if call.operation.work = .linkIssued then 2 else 3) _
      rw [if_neg (by rw [hwork]; decide)]
      exact traced_transferred hwork (h.serve access s) text answer
    · rw [hkey] at hfault
      cases hfault

/-- A link is redeemed in front of a server that cannot be reached: the key was found and the
transfer was in flight. -/
theorem follows_protocol_of_unreachable_server :
    ∃ (v : Vault Unit) (call : Call),
      v.store = Bucket.backend (fun _ s => (.error "connection refused", s)) "logs" ∧
      call = .redeemUpload sampleLink.query [1, 2] .zero ∧ v.store.KeepsToNotes ∧
      (v.outcome () call).result = .error (.internal "connection refused") ∧
      Event.phases (v.outcome () call).events =
        [.received, .keyResolved, .transferInFlight, .failed] ∧
      v.AsksInFlight () call := by
  obtain ⟨v, hissuer, hstore⟩ : ∃ v : Vault Unit, v.issuer = sampleIssuer ∧
      v.store = Bucket.backend (fun _ s => (.error "connection refused", s)) "logs" :=
    ⟨⟨_, sampleIssuer, .ofSeconds 600⟩, rfl, rfl⟩
  have hnotes : v.store.KeepsToNotes := hstore ▸ Bucket.keepsToNotes_backendOver _ "logs"
  have haccepted := hissuer ▸ validateQuery_sampleLink_upload
  have hresult : (v.outcome () (.redeemUpload sampleLink.query [1, 2] .zero)).result =
      .error (.internal "connection refused") := by
    rw [outcome_eq, plan, haccepted, hstore]
    rfl
  have hstep : v.failingStep (.redeemUpload sampleLink.query [1, 2] .zero) = .working := by
    rw [failingStep, keyFor, haccepted]
    rfl
  obtain ⟨htraced, -, hasked⟩ :=
    follows_protocol hnotes () (.redeemUpload sampleLink.query [1, 2] .zero)
  refine ⟨v, _, hstore, rfl, hnotes, hresult, ?_, hasked⟩
  rw [htraced.failed _ hresult, hstep]
  rfl

end Vault

end LogVault
