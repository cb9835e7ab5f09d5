import LogVault.Storage.Memory

/-!
# LogVault.Proofs.Storage.Access — runs of a store

What a store is asked for, as data, so that a run over a store is a list of accesses. Two stores are
compared by how they end the same run (`Action.results`): it is enough that one access keeps the
states related and ends alike (`results_eq_of_related`).
-/

namespace LogVault

/-- **An access to a store.** -/
inductive Access where
  | put (key : StorageKey) (data : Bytes)
  | get (key : StorageKey)
  deriving DecidableEq

/-- The key that was handed to the store. -/
def Access.key : Access → StorageKey
  | .put key _ => key
  | .get key => key

/-- What a store does for an access: getting gives a blob, putting gives nothing. -/
def Backend.serve {σ : Type} (b : Backend σ) : Access → Action σ (Option Bytes)
  | .put key data => (fun _ => none) <$> b.put key data
  | .get key => some <$> b.get key

namespace Action

variable {σ α : Type}

/-- How actions end that run one after another, whether or not one of them fails. -/
def results (s : σ) : List (Action σ α) → List (Except Fault α)
  | [] => []
  | a :: rest => (a.run s).result :: results (a.run s).state rest

/-- The state that they leave. -/
def stateAfter (s : σ) (actions : List (Action σ α)) : σ :=
  actions.foldl (fun s a => (a.run s).state) s

/-- **Runs that stay related end alike**: if each call ends alike in related states and leaves
related states, then so does a run of calls. -/
theorem results_eq_of_related {τ ι : Type} {f : ι → Action σ α} {g : ι → Action τ α}
    {R : σ → τ → Prop} {calls : List ι}
    (hstep : ∀ call ∈ calls, ∀ s t, R s t →
      ((f call).run s).result = ((g call).run t).result ∧
        R ((f call).run s).state ((g call).run t).state)
    {s : σ} {t : τ} (h : R s t) :
    results s (calls.map f) = results t (calls.map g) ∧
      R (stateAfter s (calls.map f)) (stateAfter t (calls.map g)) := by
  induction calls generalizing s t with
  | nil => exact ⟨rfl, h⟩
  | cons call calls ih =>
    obtain ⟨hresult, hstate⟩ := hstep call List.mem_cons_self s t h
    obtain ⟨hresults, hstates⟩ :=
      ih (fun call hcall => hstep call (List.mem_cons_of_mem _ hcall)) hstate
    refine ⟨?_, hstates⟩
    rw [List.map_cons, List.map_cons, results, results, hresult, hresults]

end Action

end LogVault
