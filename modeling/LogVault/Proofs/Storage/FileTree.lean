import LogVault.Storage.FileTree
import Mathlib.Data.List.Induction

/-!
# LogVault.Proofs.Storage.FileTree — what is where in a tree

A tree is seen through `FileTree.node?`. Each operation that succeeds changes that view at the
places it is about and nowhere else. Where a path leads is decided by its steps alone, as far as it
leads anywhere (`Route.placeOf`), and it leads there in every tree that has the directories on the
way (`walk_of_directories`).

Making a directory with those above it adds directories on the way to it, changes nothing that is
there, and when it succeeds the path can be walked (`adds_makeDirs`, `walk_of_makeDirs`).

In a closed tree, where every entry lies in a directory, a reader does not see directories that were
added elsewhere: below a directory that was missing there was nothing to be read (`read_of_adds`).
-/

namespace LogVault

namespace Route

/-! ## Places -/

/-- The place one step from a place, whether or not anything is there. -/
def lead (place : List String) : Step → List String
  | .stay => place
  | .up => place.dropLast
  | .down name => place ++ [name]

/-- **The place that steps lead to**, from the top. -/
def placeOf (steps : List Step) : List String := steps.foldl lead []

theorem placeOf_concat (steps : List Step) (step : Step) :
    placeOf (steps ++ [step]) = lead (placeOf steps) step := by
  rw [placeOf, List.foldl_append]
  rfl

theorem placeOf_filter_stay (steps : List Step) :
    placeOf (steps.filter (· ≠ .stay)) = placeOf steps := by
  have hfold : ∀ place, (steps.filter (· ≠ .stay)).foldl lead place = steps.foldl lead place := by
    induction steps with
    | nil => exact fun _ => rfl
    | cons step steps ih =>
      intro place
      cases step with
      | stay => exact ih place
      | up => exact ih place.dropLast
      | down name => exact ih (place ++ [name])
  exact hfold []

/-- **The steps pass a place** when some of them, from the first on, lead to it. -/
def Passes (steps : List Step) (place : List String) : Prop :=
  ∃ front, front <+: steps ∧ place = placeOf front

theorem passes_placeOf (steps : List Step) : Passes steps (placeOf steps) :=
  ⟨steps, List.prefix_rfl, rfl⟩

theorem Passes.mono {front steps : List Step} {place : List String} (h : Passes front place)
    (hfront : front <+: steps) : Passes steps place := by
  obtain ⟨first, hfirst, hplace⟩ := h
  exact ⟨first, hfirst.trans hfront, hplace⟩

/-- Steps of which none goes up lead on from where they begin. -/
theorem prefix_foldl_lead {steps : List Step} (h : .up ∉ steps) (place : List String) :
    place <+: steps.foldl lead place := by
  induction steps generalizing place with
  | nil => exact List.prefix_rfl
  | cons step steps ih =>
    rw [List.mem_cons, not_or] at h
    have hrest := ih h.2 (lead place step)
    cases step with
    | stay => exact hrest
    | up => exact absurd rfl h.1
    | down name => exact (List.prefix_append place [name]).trans hrest

/-- Steps of which none goes up pass nothing but what is on the way to their end. -/
theorem Passes.prefix_placeOf {steps : List Step} {place : List String} (h : Passes steps place)
    (hup : .up ∉ steps) : place <+: placeOf steps := by
  obtain ⟨front, ⟨back, rfl⟩, rfl⟩ := h
  have hback : .up ∉ back := fun hmem => hup (List.mem_append_right front hmem)
  rw [placeOf, placeOf, List.foldl_append]
  exact prefix_foldl_lead hback _

/-- **Steps of which none goes up pass nothing below their end.** -/
theorem not_passes_below {steps : List Step} (h : .up ∉ steps) {names : List String}
    (hnames : names ≠ []) : ¬ Passes steps (placeOf steps ++ names) := by
  intro hpasses
  have hlength := (hpasses.prefix_placeOf h).length_le
  rw [List.length_append] at hlength
  have hpos := List.length_pos_iff.mpr hnames
  omega

/-- A step that stays passes nothing new. -/
theorem Passes.of_filter_stay {steps : List Step} {place : List String}
    (h : Passes (steps.filter (· ≠ .stay)) place) : Passes steps place := by
  obtain ⟨front, hfront, hplace⟩ := h
  obtain ⟨first, hfirst, rfl⟩ := List.prefix_filter_iff.mp hfront
  exact ⟨first, hfirst, hplace.trans (placeOf_filter_stay first)⟩

end Route

namespace FileTree

open Route (Step lead placeOf Passes)

/-! ## The view of a tree -/

section View

variable {place : List String}

theorem node?_of_ne_nil (t : FileTree) (h : place ≠ []) :
    t.node? place = (t.entries.find? fun e => e.1 = place).map (·.2) := by
  rw [node?, if_neg]
  simpa using h

theorem node?_erase (t : FileTree) (h : place ≠ []) (other : List String) :
    (t.erase place).node? other = if other = place then none else t.node? other := by
  by_cases hother : other = []
  · subst hother
    rw [if_neg (Ne.symm h)]
    rfl
  · rw [node?_of_ne_nil _ hother, node?_of_ne_nil _ hother, erase, List.find?_filter]
    split
    · next heq =>
      subst heq
      rw [Option.map_eq_none_iff, List.find?_eq_none]
      intro e _
      by_cases he : e.1 = other <;> simp [he]
    · next hne =>
      congr 1
      congr 1
      funext e
      by_cases he : e.1 = other
      · simp [he, hne]
      · simp [he]

/-- **Setting an entry changes the view at its place alone.** -/
theorem node?_set (t : FileTree) (h : place ≠ []) (node : Node) (other : List String) :
    (t.set place node).node? other = if other = place then some node else t.node? other := by
  by_cases hother : other = []
  · subst hother
    rw [if_neg (Ne.symm h)]
    rfl
  · have herase := node?_erase t h other
    rw [node?_of_ne_nil _ hother] at herase ⊢
    rw [set, List.find?_cons]
    by_cases heq : other = place
    · simp [heq]
    · rw [if_neg heq] at herase ⊢
      rw [← herase]
      simp [Ne.symm heq]

end View

/-! ## More directories -/

/-- **A tree with more directories** than another, at places of which `P` holds, and else the
same. -/
def Adds (P : List String → Prop) (t t' : FileTree) : Prop :=
  ∀ place, t'.node? place = t.node? place ∨
    (t.node? place = none ∧ t'.node? place = some .directory ∧ P place)

section Adds

variable {P Q : List String → Prop} {t t' t'' : FileTree} {place : List String}

theorem adds_refl : Adds P t t := fun _ => .inl rfl

theorem Adds.mono (h : Adds P t t') (hP : ∀ place, P place → Q place) : Adds Q t t' := by
  intro place
  rcases h place with hsame | ⟨hnone, hnew, hplace⟩
  · exact .inl hsame
  · exact .inr ⟨hnone, hnew, hP place hplace⟩

theorem Adds.trans (h : Adds P t t') (h' : Adds P t' t'') : Adds P t t'' := by
  intro place
  rcases h' place with hsame | ⟨hnone, hnew, hplace⟩
  · rw [hsame]
    exact h place
  · rcases h place with hsame' | ⟨-, hnew', -⟩
    · exact .inr ⟨hsame' ▸ hnone, hnew, hplace⟩
    · rw [hnew'] at hnone
      cases hnone

/-- What is there stays. -/
theorem Adds.node?_eq_some {node : Node} (h : Adds P t t') (hnode : t.node? place = some node) :
    t'.node? place = some node := by
  rcases h place with hsame | ⟨hnone, -, -⟩
  · rw [hsame, hnode]
  · rw [hnode] at hnone
    cases hnone

/-- The files are the same. -/
theorem Adds.file_iff (h : Adds P t t') (content : Bytes) :
    t'.node? place = some (.file content) ↔ t.node? place = some (.file content) := by
  constructor
  · intro hfile
    rcases h place with hsame | ⟨-, hnew, -⟩
    · rw [← hsame, hfile]
    · rw [hnew] at hfile
      cases hfile
  · exact h.node?_eq_some

/-- Away from the places of which `P` holds, nothing changes. -/
theorem Adds.node?_eq (h : Adds P t t') (hplace : ¬ P place) : t'.node? place = t.node? place := by
  rcases h place with hsame | ⟨-, -, hnew⟩
  · exact hsame
  · exact absurd hnew hplace

end Adds

/-! ## Walking -/

section Walk

variable {t t' : FileTree} {place next : List String} {step : Step} {steps front back : List Step}
  {name : String}

theorem enter_down_eq_ok_iff :
    t.enter place (.down name) = .ok next ↔
      fits name = true ∧ t.node? (place ++ [name]) = some .directory ∧ next = place ++ [name] := by
  rw [enter]
  split
  · next hfits =>
    split
    · next hnode => simp [hfits, hnode, eq_comm]
    · next hnode => simp [hnode]
    · next hnode => simp [hnode]
  · next hfits => simp [hfits]

theorem eq_lead_of_enter (h : t.enter place step = .ok next) : next = lead place step := by
  cases step with
  | stay =>
    cases h
    rfl
  | up =>
    cases h
    rfl
  | down name => exact (enter_down_eq_ok_iff.mp h).2.2

theorem walk_cons (t : FileTree) (place : List String) (step : Step) (rest : List Step) :
    t.walk place (step :: rest) = (t.enter place step).bind fun next => t.walk next rest := by
  rw [walk]
  cases t.enter place step <;> rfl

theorem walk_append (t : FileTree) (place : List String) (front back : List Step) :
    t.walk place (front ++ back) = (t.walk place front).bind fun next => t.walk next back := by
  induction front generalizing place with
  | nil => rfl
  | cons step front ih =>
    rw [List.cons_append, walk_cons, walk_cons]
    cases t.enter place step with
    | error e => rfl
    | ok next => exact ih next

/-- **A walk that ends ends where its steps lead.** -/
theorem eq_placeOf_of_walk (h : t.walk [] steps = .ok place) : place = placeOf steps := by
  have hfold : ∀ start, t.walk start steps = .ok place → place = steps.foldl lead start := by
    clear h
    induction steps with
    | nil =>
      intro start h
      cases h
      rfl
    | cons step steps ih =>
      intro start h
      rw [walk_cons] at h
      cases henter : t.enter start step with
      | error e =>
        rw [henter] at h
        cases h
      | ok next =>
        rw [henter] at h
        rw [List.foldl_cons, ← eq_lead_of_enter henter]
        exact ih next h
  exact hfold [] h

/-- **A walk can be repeated** where every directory is still there. -/
theorem walk_of_directories
    (hkept : ∀ place, t.node? place = some .directory → t'.node? place = some .directory)
    (h : t.walk place steps = .ok next) : t'.walk place steps = .ok next := by
  induction steps generalizing place with
  | nil => exact h
  | cons step steps ih =>
    rw [walk_cons] at h ⊢
    cases henter : t.enter place step with
    | error e =>
      rw [henter] at h
      cases h
    | ok middle =>
      rw [henter] at h
      have hsame : t'.enter place step = .ok middle := by
        cases step with
        | stay => exact henter
        | up => exact henter
        | down name =>
          obtain ⟨hfits, hnode, rfl⟩ := enter_down_eq_ok_iff.mp henter
          exact enter_down_eq_ok_iff.mpr ⟨hfits, hkept _ hnode, rfl⟩
      rw [hsame]
      exact ih h

/-- The names of a walk that ends are not too long. -/
theorem fits_of_walk (h : t.walk place steps = .ok next) {name : String}
    (hname : .down name ∈ steps) : fits name = true := by
  induction steps generalizing place with
  | nil => cases hname
  | cons step steps ih =>
    rw [walk_cons] at h
    cases henter : t.enter place step with
    | error e =>
      rw [henter] at h
      cases h
    | ok middle =>
      rw [henter] at h
      rcases List.mem_cons.mp hname with rfl | hname
      · exact (enter_down_eq_ok_iff.mp henter).1
      · exact ih h hname

/-- A walk that begins in directories ends in directories. -/
theorem node?_of_walk
    (hplace : ∀ front, front <+: place → t.node? front = some .directory)
    (h : t.walk place steps = .ok next) :
    ∀ front, front <+: next → t.node? front = some .directory := by
  induction steps generalizing place with
  | nil =>
    cases h
    exact hplace
  | cons step steps ih =>
    rw [walk_cons] at h
    cases henter : t.enter place step with
    | error e =>
      rw [henter] at h
      cases h
    | ok middle =>
      rw [henter] at h
      refine ih ?_ h
      cases step with
      | stay =>
        cases henter
        exact hplace
      | up =>
        cases henter
        exact fun front hfront => hplace front (hfront.trans (List.dropLast_prefix place))
      | down name =>
        obtain ⟨-, hnode, rfl⟩ := enter_down_eq_ok_iff.mp henter
        intro front hfront
        rcases List.prefix_concat_iff.mp hfront with rfl | hfront
        · exact hnode
        · exact hplace front hfront

/-- **What a walk passes** are directories. -/
theorem node?_of_passes (h : t.walk [] steps = .ok next) (hpasses : Passes steps place) :
    t.node? place = some .directory := by
  obtain ⟨front, ⟨back, rfl⟩, rfl⟩ := hpasses
  rw [walk_append] at h
  cases hfront : t.walk [] front with
  | error e =>
    rw [hfront] at h
    cases h
  | ok here =>
    have htop : ∀ front, front <+: [] → t.node? front = some .directory := by
      intro front hfront
      rw [List.prefix_nil.mp hfront]
      rfl
    rw [← eq_placeOf_of_walk hfront]
    exact node?_of_walk htop hfront here List.prefix_rfl

theorem walk_singleton (t : FileTree) (place : List String) (step : Step) :
    t.walk place [step] = t.enter place step := by
  rw [walk_cons]
  cases t.enter place step <;> rfl

theorem walk_concat_eq_ok_iff :
    t.walk place (front ++ [step]) = .ok next ↔
      ∃ here, t.walk place front = .ok here ∧ t.enter here step = .ok next := by
  rw [walk_append]
  cases t.walk place front with
  | error e => simp [Except.bind]
  | ok here => simp only [Except.bind, walk_singleton, Except.ok.injEq, exists_eq_left']

theorem walk_concat_down (h : t.walk [] front = .ok place) (hfits : fits name = true) :
    t.walk [] (front ++ [.down name]) =
      match t.node? (place ++ [name]) with
      | some .directory => .ok (place ++ [name])
      | some (.file _) => .error .notDirectory
      | none => .error .noEntry := by
  rw [walk_append, h]
  show t.walk place [.down name] = _
  rw [walk_singleton]
  exact if_pos hfits

end Walk

/-! ## Walking where directories were added -/

/-- **A tree is closed** when every entry lies in a directory. -/
def Closed (t : FileTree) : Prop :=
  ∀ place name node, t.node? (place ++ [name]) = some node → t.node? place = some .directory

section Closed

variable {P : List String → Prop} {t t' : FileTree} {steps : List Step} {e : FileError}

theorem Closed.node?_below (h : Closed t) {place : List String} (hplace : t.node? place = none)
    (name : String) : t.node? (place ++ [name]) = none := by
  cases hnode : t.node? (place ++ [name]) with
  | none => rfl
  | some node =>
    have hdirectory := h place name node hnode
    rw [hplace] at hdirectory
    cases hdirectory

/-- It is enough to look at the entries that a tree has. -/
theorem closed_of_entries (h : ∀ e ∈ t.entries, t.node? e.1.dropLast = some .directory) :
    Closed t := by
  intro place name node hnode
  rw [node?_of_ne_nil t (by simp), Option.map_eq_some_iff] at hnode
  obtain ⟨e, hfind, -⟩ := hnode
  have hplace : e.1 = place ++ [name] := by simpa using List.find?_some hfind
  have hparent := h e (List.mem_of_find?_eq_some hfind)
  rw [hplace, List.dropLast_concat] at hparent
  exact hparent

/-- **A walk that fails fails again** where directories were added, unless it failed for want of one:
then nothing was at its end before, and it may end now. -/
theorem walk_error_of_adds (hclosed : Closed t) (h : Adds P t t') (hup : .up ∉ steps)
    (hfits : ∀ name, .down name ∈ steps → fits name = true) (hwalk : t.walk [] steps = .error e) :
    t'.walk [] steps = .error e ∨
      e = .noEntry ∧ t.node? (placeOf steps) = none ∧
        t'.walk [] steps = .ok (placeOf steps) := by
  -- on the steps from the first to the last: the walk to the front ended or did not
  induction steps using List.reverseRecOn generalizing e with
  | nil => cases hwalk
  | append_singleton front step ih =>
    have hupFront : .up ∉ front := fun hmem => hup (List.mem_append_left _ hmem)
    have hfitsFront : ∀ name, .down name ∈ front → fits name = true := fun name hmem =>
      hfits name (List.mem_append_left _ hmem)
    have hgoes : ∀ here, t'.walk [] front = .ok here →
        t'.walk [] (front ++ [step]) = t'.enter here step := by
      intro here hfront
      rw [walk_append, hfront]
      exact walk_singleton t' here step
    rw [Route.placeOf_concat]
    cases hfront : t.walk [] front with
    | error cause =>
      have hcause : cause = e := by
        rw [walk_append, hfront] at hwalk
        exact Except.error.inj hwalk
      rw [hcause] at hfront
      rcases ih hupFront hfitsFront hfront with hagain | ⟨hnone, hempty, hends⟩
      · refine .inl ?_
        rw [walk_append, hagain]
        rfl
      · rw [hgoes _ hends]
        cases step with
        | up => exact absurd (List.mem_append_right front List.mem_cons_self) hup
        | stay => exact .inr ⟨hnone, hempty, rfl⟩
        | down name =>
          -- nothing was below what was not there, so what is there now was added
          have hbelow := hclosed.node?_below hempty name
          have hname := hfits name (List.mem_append_right front List.mem_cons_self)
          rw [enter, if_pos hname]
          rcases h (placeOf front ++ [name]) with hsame | ⟨-, hnew, -⟩
          · rw [hsame, hbelow]
            exact .inl (by rw [hnone])
          · rw [hnew]
            exact .inr ⟨hnone, hbelow, rfl⟩
    | ok here =>
      have hhere := eq_placeOf_of_walk hfront
      have hfront' := walk_of_directories (fun _ => h.node?_eq_some) hfront
      rw [walk_append, hfront] at hwalk
      change t.walk here [step] = _ at hwalk
      rw [walk_singleton] at hwalk
      rw [hgoes _ hfront', ← hhere]
      cases step with
      | up => cases hwalk
      | stay => cases hwalk
      | down name =>
        have hname := hfits name (List.mem_append_right front List.mem_cons_self)
        rw [enter, if_pos hname] at hwalk ⊢
        cases hnode : t.node? (here ++ [name]) with
        | none =>
          rw [hnode] at hwalk
          cases hwalk
          rcases h (here ++ [name]) with hsame | ⟨-, hnew, -⟩
          · rw [hsame, hnode]
            exact .inl rfl
          · rw [hnew]
            exact .inr ⟨rfl, hnode, rfl⟩
        | some node =>
          rw [hnode] at hwalk
          rw [h.node?_eq_some hnode]
          cases node with
          | directory => cases hwalk
          | file content => exact .inl hwalk

end Closed

/-! ## Locating -/

section Locate

variable {t : FileTree} {place : List String} {front : List Step} {name : String} {slashed : Bool}
  {route : Route}

theorem locate_concat_down (h : t.walk [] front = .ok place) (hfits : fits name = true) :
    t.locate ⟨front ++ [.down name], slashed⟩ = .ok (.entry (place ++ [name])) := by
  simp only [locate, List.getLast?_concat, List.dropLast_concat, h, hfits, if_true]

theorem locate_concat_of_error {e : FileError} {step : Step} (h : t.walk [] front = .error e) :
    t.locate ⟨front ++ [step], slashed⟩ = .error e := by
  simp only [locate, List.getLast?_concat, List.dropLast_concat, h]

/-- Behind a walk, a last step that is no name goes through a directory. -/
theorem locate_concat_of_enter {step : Step} {next : List String} (h : t.walk [] front = .ok place)
    (hstep : ∀ name, step ≠ .down name) (henter : t.enter place step = .ok next) :
    t.locate ⟨front ++ [step], slashed⟩ = .ok (.through next) := by
  simp only [locate, List.getLast?_concat, List.dropLast_concat, h]
  cases step with
  | stay => rw [henter, Except.map]
  | up => rw [henter, Except.map]
  | down name => exact absurd rfl (hstep name)

theorem locate_concat_down_of_not_fits (h : t.walk [] front = .ok place)
    (hfits : fits name = false) :
    t.locate ⟨front ++ [.down name], slashed⟩ = .error .nameTooLong := by
  simp only [locate, List.getLast?_concat, List.dropLast_concat, h, hfits, Bool.false_eq_true,
    if_false]

/-- **What locating a path finds**: a walk through it, or the name at its end and a walk to it. -/
theorem cases_of_locate {goal : Goal} (h : t.locate route = .ok goal) :
    (∃ place, goal = .through place ∧ t.walk [] route.steps = .ok place) ∨
      ∃ front name place, goal = .entry (place ++ [name]) ∧
        route.steps = front ++ [.down name] ∧ t.walk [] front = .ok place ∧ fits name = true := by
  obtain ⟨steps, slashed⟩ := route
  rcases List.eq_nil_or_concat steps with rfl | ⟨front, last, rfl⟩
  · cases h
    exact .inl ⟨[], rfl, rfl⟩
  · rw [List.concat_eq_append] at h ⊢
    cases hwalk : t.walk [] front with
    | error e =>
      rw [locate_concat_of_error hwalk] at h
      cases h
    | ok place =>
      cases last with
      | stay =>
        have henter : t.enter place .stay = .ok place := rfl
        rw [locate_concat_of_enter hwalk (fun _ => Step.noConfusion) henter] at h
        cases h
        exact .inl ⟨place, rfl, walk_concat_eq_ok_iff.mpr ⟨place, hwalk, rfl⟩⟩
      | up =>
        have henter : t.enter place .up = .ok place.dropLast := rfl
        rw [locate_concat_of_enter hwalk (fun _ => Step.noConfusion) henter] at h
        cases h
        exact .inl ⟨place.dropLast, rfl, walk_concat_eq_ok_iff.mpr ⟨place, hwalk, rfl⟩⟩
      | down name =>
        cases hfits : fits name with
        | true =>
          rw [locate_concat_down hwalk hfits] at h
          cases h
          exact .inr ⟨front, name, place, rfl, rfl, hwalk, hfits⟩
        | false =>
          rw [locate_concat_down_of_not_fits hwalk hfits] at h
          cases h

/-- A path that can be walked leads to a directory. -/
theorem isDirectory_of_walk (h : t.walk [] route.steps = .ok place) :
    t.isDirectory route = true := by
  obtain ⟨steps, slashed⟩ := route
  rcases List.eq_nil_or_concat steps with rfl | ⟨front, last, rfl⟩
  · rfl
  · rw [List.concat_eq_append] at h ⊢
    obtain ⟨here, hwalk, henter⟩ := walk_concat_eq_ok_iff.mp h
    cases last with
    | stay =>
      rw [isDirectory, locate_concat_of_enter hwalk (fun _ => Step.noConfusion) henter]
    | up =>
      rw [isDirectory, locate_concat_of_enter hwalk (fun _ => Step.noConfusion) henter]
    | down name =>
      obtain ⟨hfits, hnode, -⟩ := enter_down_eq_ok_iff.mp henter
      rw [isDirectory, locate_concat_down hwalk hfits]
      exact beq_iff_eq.mpr hnode

/-- A path that leads to a directory can be walked. -/
theorem walk_of_isDirectory (h : t.isDirectory route = true) :
    t.walk [] route.steps = .ok (placeOf route.steps) := by
  rw [isDirectory] at h
  have hwalks : ∃ place, t.walk [] route.steps = .ok place := by
    cases hlocate : t.locate route with
    | error e =>
      rw [hlocate] at h
      cases h
    | ok goal =>
      rw [hlocate] at h
      rcases cases_of_locate hlocate with ⟨place, -, hwalk⟩ |
        ⟨front, name, place, rfl, hsteps, hwalk, hfits⟩
      · exact ⟨place, hwalk⟩
      · refine ⟨place ++ [name], ?_⟩
        rw [hsteps, walk_concat_down hwalk hfits, eq_of_beq h]
  obtain ⟨place, hwalk⟩ := hwalks
  rw [hwalk, eq_placeOf_of_walk hwalk]

end Locate

/-! ## Making directories -/

section MakeDirs

variable {t t' : FileTree} {route : Route}

/-- **Making one directory** adds it, and it can be walked to. -/
theorem of_makeDir (h : t.makeDir route = .ok t') :
    Adds (· = placeOf route.steps) t t' ∧ t'.isDirectory route = true := by
  unfold makeDir at h
  cases hlocate : t.locate route with
  | error e =>
    rw [hlocate] at h
    cases h
  | ok goal =>
    rw [hlocate] at h
    rcases cases_of_locate hlocate with
      ⟨_, rfl, -⟩ | ⟨front, name, place, rfl, hsteps, hwalk, hfits⟩
    · cases h
    · cases hnode : t.node? (place ++ [name]) with
      | some node =>
        simp only [hnode] at h
        cases h
      | none =>
        simp only [hnode] at h
        cases h
        have hne : place ++ [name] ≠ [] := by simp
        have hplace : place ++ [name] = placeOf route.steps := by
          rw [hsteps, Route.placeOf_concat, eq_placeOf_of_walk hwalk]
          rfl
        have hadds : Adds (· = placeOf route.steps) t (t.set (place ++ [name]) .directory) := by
          intro other
          rw [node?_set t hne]
          by_cases hother : other = place ++ [name]
          · rw [if_pos hother]
            exact .inr ⟨hother ▸ hnode, rfl, hother.trans hplace⟩
          · rw [if_neg hother]
            exact .inl rfl
        have hfront := walk_of_directories (fun _ => hadds.node?_eq_some) hwalk
        have hroute : (t.set (place ++ [name]) .directory).walk [] route.steps =
            .ok (place ++ [name]) := by
          rw [hsteps, walk_concat_down hfront hfits, node?_set t hne, if_pos rfl]
        exact ⟨hadds, isDirectory_of_walk hroute⟩

/-- **Making a directory after those above it**, which add to the tree at places of which `P`
holds. -/
theorem of_makeAfter {P : List String → Prop} {above : Except FileError Unit × FileTree}
    (habove : Adds P t above.2) (hP : P (placeOf route.steps)) :
    Adds P t (t.makeAfter route above).2 ∧
      ((t.makeAfter route above).1 = .ok () →
        (t.makeAfter route above).2.isDirectory route = true) := by
  unfold makeAfter
  split
  · next made hmade =>
    obtain ⟨hadds, hdirectory⟩ := of_makeDir hmade
    exact ⟨hadds.mono fun _ h => h ▸ hP, fun _ => hdirectory⟩
  · split
    · exact ⟨habove, fun h => by cases h⟩
    · next tree =>
      split
      · next made hmade =>
        obtain ⟨hadds, hdirectory⟩ := of_makeDir hmade
        exact ⟨habove.trans (hadds.mono fun _ h => h ▸ hP), fun _ => hdirectory⟩
      · refine ⟨habove, fun h => ?_⟩
        dsimp only at h ⊢
        split at h
        · assumption
        · cases h
  · refine ⟨adds_refl, fun h => ?_⟩
    dsimp only at h ⊢
    split at h
    · assumption
    · cases h

theorem adds_makeDirsUp (t : FileTree) (ups : List Step) :
    Adds (Passes ups.reverse) t (t.makeDirsUp ups).2 := by
  induction ups with
  | nil => exact adds_refl
  | cons step above ih =>
    have habove : Adds (Passes (step :: above).reverse) t (t.makeDirsUp above).2 := by
      refine ih.mono fun place hplace => hplace.mono ?_
      rw [List.reverse_cons]
      exact List.prefix_append _ _
    exact (of_makeAfter habove (Route.passes_placeOf _)).1

/-- The steps above a path pass no place that the path does not pass. -/
theorem passes_of_stepsAbove {place : List String} (h : Passes (stepsAbove route).reverse place) :
    Passes route.steps place := by
  refine Passes.of_filter_stay (h.mono ?_)
  rw [stepsAbove, ← List.reverse_suffix, List.reverse_reverse]
  exact List.drop_suffix 1 _

theorem of_makeDirs (t : FileTree) (route : Route) :
    Adds (Passes route.steps) t (t.makeDirs route).2 ∧
      ((t.makeDirs route).1 = .ok () → (t.makeDirs route).2.isDirectory route = true) :=
  of_makeAfter ((adds_makeDirsUp t _).mono fun _ => passes_of_stepsAbove)
    (Route.passes_placeOf route.steps)

/-- **Making a directory with those above it adds directories on the way**, whether it succeeds or
not. -/
theorem adds_makeDirs (t : FileTree) (route : Route) :
    Adds (Passes route.steps) t (t.makeDirs route).2 := (of_makeDirs t route).1

/-- **When it succeeds, the directory can be walked to.** -/
theorem walk_of_makeDirs (h : t.makeDirs route = (.ok (), t')) :
    t'.walk [] route.steps = .ok (placeOf route.steps) := by
  have hdirectory := (of_makeDirs t route).2 (by rw [h])
  rw [h] at hdirectory
  exact walk_of_isDirectory hdirectory

/-- A directory that is there is made at once, and nothing changes. -/
theorem makeDirs_of_walk {place : List String} (h : t.walk [] route.steps = .ok place) :
    t.makeDirs route = (.ok (), t) := by
  have hdirectory := isDirectory_of_walk h
  have hthere : t.makeDir route = .error .alreadyThere := by
    unfold makeDir
    cases hlocate : t.locate route with
    | error e =>
      rw [isDirectory, hlocate] at hdirectory
      cases hdirectory
    | ok goal =>
      rw [isDirectory, hlocate] at hdirectory
      cases goal with
      | through place => rfl
      | entry place => simp only [eq_of_beq hdirectory]
  simp only [makeDirs, makeAfter, hthere, hdirectory, if_true]

/-- **Making a directory in one that is there.** -/
theorem exists_makeDirs_concat_down {front : List Step} {place : List String} {name : String}
    (h : t.walk [] front = .ok place) (hfits : fits name = true)
    (hnofile : ∀ content, t.node? (place ++ [name]) ≠ some (.file content)) :
    ∃ t', t.makeDirs ⟨front ++ [.down name], false⟩ = (.ok (), t') ∧
      ∀ other, t'.node? other =
        if other = place ++ [name] then some .directory else t.node? other := by
  cases hnode : t.node? (place ++ [name]) with
  | none =>
    refine ⟨t.set (place ++ [name]) .directory, ?_, node?_set t (by simp) .directory⟩
    have hmake : t.makeDir ⟨front ++ [.down name], false⟩ =
        .ok (t.set (place ++ [name]) .directory) := by
      simp only [makeDir, locate_concat_down h hfits, hnode]
    simp only [makeDirs, makeAfter, hmake]
  | some node =>
    cases node with
    | file content => exact absurd hnode (hnofile content)
    | directory =>
      have hwalk : t.walk [] (front ++ [.down name]) = .ok (place ++ [name]) := by
        rw [walk_concat_down h hfits, hnode]
      refine ⟨t, makeDirs_of_walk hwalk, fun other => ?_⟩
      split
      · next hother => rw [hother, hnode]
      · rfl

end MakeDirs

/-! ## Files -/

section Files

variable {t : FileTree} {place : List String} {front : List Step} {name : String}

theorem create_concat_down (h : t.walk [] front = .ok place) (hfits : fits name = true)
    (hfree : t.node? (place ++ [name]) ≠ some .directory) :
    t.create ⟨front ++ [.down name], false⟩ = .ok (t.set (place ++ [name]) (.file [])) := by
  have hnot : (t.node? (place ++ [name]) == some .directory) = false :=
    beq_eq_false_iff_ne.mpr hfree
  simp only [create, List.dropLast_concat, h, locate_concat_down h hfits, hnot,
    Bool.false_eq_true, if_false]

theorem fill_concat_down (h : t.walk [] front = .ok place) (hfits : fits name = true)
    (content : Bytes) :
    t.fill ⟨front ++ [.down name], false⟩ content =
      .ok (t.set (place ++ [name]) (.file content)) := by
  simp only [fill, locate_concat_down h hfits]

/-- **Renaming a file** in its directory. -/
theorem rename_concat_down {target : String} {content : Bytes}
    (h : t.walk [] front = .ok place) (hfits : fits name = true) (hfits' : fits target = true)
    (hfile : t.node? (place ++ [name]) = some (.file content))
    (hfree : t.node? (place ++ [target]) ≠ some .directory) :
    t.rename ⟨front ++ [.down name], false⟩ ⟨front ++ [.down target], false⟩ =
      .ok ((t.erase (place ++ [name])).set (place ++ [target]) (.file content)) := by
  simp only [rename, locate_concat_down h hfits, locate_concat_down h hfits', hfile, hfree,
    if_false]

/-- **Writing beside a file, then renaming**, where nothing is in the way: in the end the file is
there with its whole content, and nothing else has changed. -/
theorem exists_replace {target : String} (h : t.walk [] front = .ok place)
    (hfits : fits name = true) (hfits' : fits target = true) (hne : target ≠ name)
    (hunused : t.node? (place ++ [name]) = none)
    (hfree : t.node? (place ++ [target]) ≠ some .directory) (content : Bytes) :
    ∃ t₁ t₂ t₃, t.create ⟨front ++ [.down name], false⟩ = .ok t₁ ∧
      t₁.fill ⟨front ++ [.down name], false⟩ content = .ok t₂ ∧
      t₂.rename ⟨front ++ [.down name], false⟩ ⟨front ++ [.down target], false⟩ = .ok t₃ ∧
      ∀ other, t₃.node? other =
        if other = place ++ [target] then some (.file content) else t.node? other := by
  have hname : place ++ [name] ≠ [] := by simp
  have htarget : place ++ [target] ≠ [] := by simp
  have hother : place ++ [target] ≠ place ++ [name] := by simpa using hne
  -- every directory stays, since the scratch file is put where nothing was
  have hstays : ∀ {tree : FileTree} {file : Bytes},
      (∀ other, tree.node? other = if other = place ++ [name] then some (.file file)
        else t.node? other) → tree.walk [] front = .ok place := by
    intro tree file hnode
    refine walk_of_directories (fun other hdirectory => ?_) h
    rw [hnode, if_neg, hdirectory]
    rintro rfl
    rw [hunused] at hdirectory
    cases hdirectory
  have hcreate := create_concat_down h hfits (by rw [hunused]; exact nofun)
  have hnode₁ := node?_set t hname (.file [])
  have hfill := fill_concat_down (hstays hnode₁) hfits content
  have hnode₂ : ∀ other, ((t.set (place ++ [name]) (.file [])).set (place ++ [name])
      (.file content)).node? other =
        if other = place ++ [name] then some (.file content) else t.node? other := by
    intro other
    rw [node?_set _ hname, hnode₁]
    split <;> rfl
  have hrename := rename_concat_down (hstays hnode₂) hfits hfits'
    (by rw [hnode₂, if_pos rfl]) (by rw [hnode₂, if_neg hother]; exact hfree)
  refine ⟨_, _, _, hcreate, hfill, hrename, fun other => ?_⟩
  rw [node?_set _ htarget, node?_erase _ hname, hnode₂]
  split
  · rfl
  · split
    · next hsame => rw [hsame, hunused]
    · rfl

theorem read_concat_down (h : t.walk [] front = .ok place) (hfits : fits name = true) :
    t.read ⟨front ++ [.down name], false⟩ =
      match t.node? (place ++ [name]) with
      | none => .error .noEntry
      | some .directory => .error .isDirectory
      | some (.file content) => .ok content := by
  simp only [read, locate_concat_down h hfits]
  cases t.node? (place ++ [name]) with
  | none => rfl
  | some node => cases node <;> rfl

theorem read_concat_of_error {e : FileError} {step : Step} (h : t.walk [] front = .error e) :
    t.read ⟨front ++ [step], false⟩ = .error e := by
  simp only [read, locate_concat_of_error h]

/-- **Reading does not see added directories**, unless one is where the file is looked for. -/
theorem read_of_adds {P : List String → Prop} {t' : FileTree} (hclosed : Closed t)
    (h : Adds P t t') (hup : .up ∉ front)
    (hfront : ∀ name, .down name ∈ front → fits name = true) (hfits : fits name = true)
    (hplace : ¬ P (placeOf front ++ [name])) :
    t'.read ⟨front ++ [.down name], false⟩ = t.read ⟨front ++ [.down name], false⟩ := by
  have hsame := h.node?_eq hplace
  cases hwalk : t.walk [] front with
  | ok here =>
    have hwalk' := walk_of_directories (fun _ => h.node?_eq_some) hwalk
    rw [← eq_placeOf_of_walk hwalk] at hsame
    rw [read_concat_down hwalk hfits, read_concat_down hwalk' hfits, hsame]
  | error e =>
    rw [read_concat_of_error hwalk]
    rcases walk_error_of_adds hclosed h hup hfront hwalk with hagain | ⟨rfl, hnone, hends⟩
    · rw [read_concat_of_error hagain]
    · rw [read_concat_down hends hfits, hsame, hclosed.node?_below hnone name]

/-- Renaming a file to a directory is refused. -/
theorem rename_concat_down_of_directory {target : String} {content : Bytes}
    (h : t.walk [] front = .ok place) (hfits : fits name = true) (hfits' : fits target = true)
    (hfile : t.node? (place ++ [name]) = some (.file content))
    (hdirectory : t.node? (place ++ [target]) = some .directory) :
    t.rename ⟨front ++ [.down name], false⟩ ⟨front ++ [.down target], false⟩ =
      .error .isDirectory := by
  simp only [rename, locate_concat_down h hfits, locate_concat_down h hfits', hfile, hdirectory,
    if_true]

theorem remove_concat_down (h : t.walk [] front = .ok place) (hfits : fits name = true) :
    t.remove ⟨front ++ [.down name], false⟩ =
      match t.node? (place ++ [name]) with
      | none => .error .noEntry
      | some .directory => .error .isDirectory
      | some (.file _) => .ok (t.erase (place ++ [name])) := by
  rcases hnode : t.node? (place ++ [name]) with _ | content | _ <;>
    simp only [remove, locate_concat_down h hfits, hnode]

end Files

end FileTree

end LogVault
