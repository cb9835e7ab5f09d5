import LogVault.Journal

/-!
# LogVault.Action — steps that may fail

An action runs against a state, ends with a value or a fault, leaves a state behind, and writes
events to the journal in order. What it did before it failed stays done: `Outcome.state` and
`Outcome.events` are there in both cases.

`>>=` runs the second action in the state that the first one left, after the first one's events, and
not at all when the first one failed (`run_bind_ok`, `run_bind_error`).
-/

namespace LogVault

/-- **How an action ended.** -/
structure Outcome (σ α : Type) where
  result : Except Fault α
  state : σ
  events : List Event

/-- **A step that may fail**, over states in `σ`. -/
def Action (σ α : Type) : Type := σ → Outcome σ α

namespace Action

variable {σ τ α β : Type}

/-- The outcome of an action in a state. -/
def run (a : Action σ α) (s : σ) : Outcome σ α := a s

/-- The action that does nothing. -/
protected def pure (x : α) : Action σ α := fun s => ⟨.ok x, s, []⟩

/-- The action that fails and does nothing else. -/
def fail (fault : Fault) : Action σ α := fun s => ⟨.error fault, s, []⟩

/-- One action after another. -/
protected def bind (a : Action σ α) (f : α → Action σ β) : Action σ β := fun s =>
  match a s with
  | ⟨.ok x, s, events⟩ =>
    let next := f x s
    ⟨next.result, next.state, events ++ next.events⟩
  | ⟨.error fault, s, events⟩ => ⟨.error fault, s, events⟩

instance : Monad (Action σ) where
  pure := Action.pure
  bind := Action.bind

/-- One entry in the journal. -/
def record (event : Event) : Action σ Unit := fun s => ⟨.ok (), s, [event]⟩

/-- A note in the journal. -/
def note (level : Level) (message : String) : Action σ Unit := record (.note level message)

/-- A result that is known already. -/
def ofExcept (r : Except Fault α) : Action σ α := fun s => ⟨r, s, []⟩

/-- An action that, when it fails, leaves one more entry and then fails all the same. -/
def onFault (a : Action σ α) (entry : Fault → Event) : Action σ α := fun s =>
  match a s with
  | ⟨.ok x, s, events⟩ => ⟨.ok x, s, events⟩
  | ⟨.error fault, s, events⟩ => ⟨.error fault, s, events ++ [entry fault]⟩

/-- An action on a part of the state. -/
def within (view : τ → σ) (update : σ → τ → τ) (a : Action σ α) : Action τ α := fun t =>
  let o := a (view t)
  ⟨o.result, update o.state t, o.events⟩

/-! ## Laws -/

@[simp] theorem run_pure (x : α) (s : σ) : run (pure x) s = ⟨.ok x, s, []⟩ := rfl

@[simp] theorem run_record (event : Event) (s : σ) : run (record event) s = ⟨.ok (), s, [event]⟩ :=
  rfl

theorem run_bind_ok {a : Action σ α} {f : α → Action σ β} {s t : σ} {x : α} {events : List Event}
    (h : a.run s = ⟨.ok x, t, events⟩) :
    (a >>= f).run s =
      ⟨((f x).run t).result, ((f x).run t).state, events ++ ((f x).run t).events⟩ := by
  change Action.bind a f s = _
  unfold Action.bind
  rw [show a s = _ from h]
  rfl

theorem run_bind_error {a : Action σ α} {f : α → Action σ β} {s t : σ} {fault : Fault}
    {events : List Event} (h : a.run s = ⟨.error fault, t, events⟩) :
    (a >>= f).run s = ⟨.error fault, t, events⟩ := by
  change Action.bind a f s = _
  unfold Action.bind
  rw [show a s = _ from h]

/-- An action after another that ends well: the first one did. -/
theorem exists_of_bind_eq_ok {a : Action σ α} {f : α → Action σ β} {s : σ} {y : β}
    (h : ((a >>= f).run s).result = .ok y) :
    ∃ x t events, a.run s = ⟨.ok x, t, events⟩ ∧ ((f x).run t).result = .ok y := by
  cases hrun : a.run s with
  | mk result t events =>
    cases result with
    | ok x =>
      rw [run_bind_ok hrun] at h
      exact ⟨x, t, events, rfl, h⟩
    | error fault =>
      rw [run_bind_error hrun] at h
      cases h

end Action

/-! ## Another answer -/

namespace Outcome

variable {σ α β : Type}

/-- The outcome with another answer. -/
def map (f : α → β) (o : Outcome σ α) : Outcome σ β := ⟨o.result.map f, o.state, o.events⟩

@[simp] theorem map_result (f : α → β) (o : Outcome σ α) : (o.map f).result = o.result.map f := rfl

@[simp] theorem map_state (f : α → β) (o : Outcome σ α) : (o.map f).state = o.state := rfl

end Outcome

theorem Action.run_map {σ α β : Type} (f : α → β) (a : Action σ α) (s : σ) :
    (f <$> a).run s = (a.run s).map f := by
  show (a >>= fun x => pure (f x)).run s = _
  cases h : a.run s with
  | mk result t events =>
    cases result with
    | ok x =>
      rw [run_bind_ok h, run_pure, List.append_nil]
      rfl
    | error fault =>
      rw [run_bind_error h]
      rfl

theorem Action.exists_of_map_eq_ok {σ α β : Type} {f : α → β} {a : Action σ α} {s : σ} {y : β}
    (h : ((f <$> a).run s).result = .ok y) : ∃ x, (a.run s).result = .ok x ∧ f x = y := by
  rw [run_map, Outcome.map_result] at h
  cases hresult : (a.run s).result with
  | ok x =>
    rw [hresult] at h
    exact ⟨x, rfl, Except.ok.inj h⟩
  | error fault =>
    rw [hresult] at h
    cases h

end LogVault
