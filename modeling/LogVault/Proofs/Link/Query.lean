import LogVault.Link.Query
import LogVault.Proofs.Text.Decimal
import LogVault.Proofs.Text.Form

/-!
# LogVault.Proofs.Link.Query — a query is read as what it carries

The reader goes through the pairs with a slot for each field and stops at the first field that comes
twice. What it ends with is nevertheless a matter of the pairs as a whole: the slots hold just the
values that each name has (`addAll?_eq_some_iff`), so a query is read if and only if it carries a
link (`ofPairs?_eq_some_iff`), in whatever order, with whatever other names between.

Every name stands once among the pairs of a written query, so it is read as what it was written from:
`read?_write`. The one condition is that the expiry fits 64 bits.
-/

namespace LogVault.LinkQuery

/-! ## Values of a name -/

/-- All values that a name has. -/
def valuesOf (name : String) (pairs : List (String × String)) : List String :=
  (pairs.filter fun p => p.1 = name).map (·.2)

theorem valuesOf_cons (name : String) (pair : String × String) (pairs : List (String × String)) :
    valuesOf name (pair :: pairs) =
      if pair.1 = name then pair.2 :: valuesOf name pairs else valuesOf name pairs := by
  unfold valuesOf
  split
  · next h => rw [List.filter_cons_of_pos (by simpa using h), List.map_cons]
  · next h => rw [List.filter_cons_of_neg (by simpa using h)]

theorem valuesOf_append (name : String) (pairs rest : List (String × String)) :
    valuesOf name (pairs ++ rest) = valuesOf name pairs ++ valuesOf name rest := by
  rw [valuesOf, List.filter_append, List.map_append, valuesOf, valuesOf]

theorem valuesOf_eq_nil {name : String} {pairs : List (String × String)}
    (h : name ∉ pairs.map (·.1)) : valuesOf name pairs = [] := by
  rw [valuesOf, List.map_eq_nil_iff, List.filter_eq_nil_iff]
  exact fun p hp heq => h (List.mem_map.mpr ⟨p, hp, of_decide_eq_true heq⟩)

/-! ## Values in a slot -/

theorem toList_inj {o p : Option String} : o.toList = p.toList ↔ o = p := by
  refine ⟨fun h => ?_, fun h => h ▸ rfl⟩
  rw [← Option.head?_toList (o := o), h, Option.head?_toList]

/-- A value fits a slot just if the slot is empty. -/
theorem toList_append_singleton {o p : Option String} {value : String} :
    o.toList ++ [value] = p.toList ↔ o = none ∧ p = some value := by
  cases o with
  | none => cases p <;> simp [eq_comm]
  | some _ => cases p <;> simp

/-- What fits a slot with more behind it fits a slot. -/
theorem exists_toList_of_append {l rest : List String} {p : Option String}
    (h : l ++ rest = p.toList) : ∃ o : Option String, l = o.toList := by
  match l with
  | [] => exact ⟨none, rfl⟩
  | [value] => exact ⟨some value, rfl⟩
  | _ :: _ :: _ =>
    have hlength := congrArg List.length h
    have hone := Option.length_toList_le (o := p)
    simp only [List.cons_append, List.length_cons] at hlength
    omega

/-! ## Slots -/

theorem Field.name_injective {f g : Field} (h : f.name = g.name) : f = g := by
  have hsame : ofName? f.name = some g := ofName?_eq_some_iff.mpr h
  rw [ofName?_eq_some_iff.mpr rfl] at hsame
  exact Option.some.inj hsame

namespace Slots

/-- **One pair** adds its value to those of its field, and there may be no other. -/
theorem add?_eq_some_iff {s t : Slots} {pair : String × String} : s.add? pair = some t ↔
    ∀ field : Field, (s.value? field).toList ++ valuesOf field.name [pair] =
      (t.value? field).toList := by
  obtain ⟨s⟩ := s
  obtain ⟨t⟩ := t
  have hvalues : ∀ field : Field,
      valuesOf field.name [pair] = if pair.1 = field.name then [pair.2] else [] := fun field => by
    rw [valuesOf_cons]
    rfl
  unfold add?
  cases hname : Field.ofName? pair.1 with
  | none =>
    have hother : ∀ field : Field, pair.1 ≠ field.name := fun field h => by
      rw [Field.ofName?_eq_some_iff.mpr h] at hname
      cases hname
    simp only [hvalues, hother, if_false, List.append_nil, toList_inj, Option.some.injEq,
      Slots.mk.injEq, funext_iff]
  | some named =>
    have hnamed := Field.ofName?_eq_some_iff.mp hname
    have hown : ∀ field : Field, pair.1 = field.name ↔ field = named := fun field =>
      ⟨fun h => Field.name_injective (h.symm.trans hnamed), fun h => h ▸ hnamed⟩
    simp only [hvalues, hown]
    by_cases hfilled : (s named).isSome = true
    · rw [if_pos hfilled]
      refine iff_of_false nofun fun h => ?_
      have hslot := h named
      rw [if_pos rfl, toList_append_singleton] at hslot
      rw [hslot.1] at hfilled
      cases hfilled
    · have hslot := Option.not_isSome_iff_eq_none.mp hfilled
      rw [if_neg hfilled]
      simp only [Option.some.injEq, fill, Slots.mk.injEq, funext_iff]
      refine forall_congr' fun field => ?_
      by_cases hfield : field = named
      · rw [if_pos hfield, if_pos hfield, toList_append_singleton, hfield, hslot]
        exact ⟨fun h => ⟨rfl, h.symm⟩, fun h => h.2.symm⟩
      · rw [if_neg hfield, if_neg hfield, List.append_nil, toList_inj]

/-- **All pairs together** add to each field the values of its name, and nothing depends on what
stands between them. -/
theorem addAll?_eq_some_iff {s t : Slots} {pairs : List (String × String)} :
    s.addAll? pairs = some t ↔ ∀ field : Field,
      (s.value? field).toList ++ valuesOf field.name pairs = (t.value? field).toList := by
  induction pairs generalizing s with
  | nil =>
    obtain ⟨s⟩ := s
    obtain ⟨t⟩ := t
    simp only [addAll?, valuesOf, List.filter_nil, List.map_nil, List.append_nil, toList_inj,
      Option.some.injEq, Slots.mk.injEq, funext_iff]
  | cons pair rest ih =>
    have hcons : ∀ field : Field,
        valuesOf field.name (pair :: rest) =
          valuesOf field.name [pair] ++ valuesOf field.name rest :=
      fun field => valuesOf_append field.name [pair] rest
    rw [addAll?, Option.bind_eq_some_iff]
    simp only [add?_eq_some_iff, ih, hcons]
    constructor
    · rintro ⟨m, hfirst, hrest⟩ field
      rw [← hrest field, ← hfirst field, List.append_assoc]
    · intro h
      -- with the values that follow there is one at most, so there is with the first pair
      choose m hfirst using fun field : Field =>
        exists_toList_of_append ((List.append_assoc _ _ _).trans (h field))
      refine ⟨⟨m⟩, hfirst, fun field => ?_⟩
      rw [← hfirst field, List.append_assoc]
      exact h field

end Slots

/-! ## What a query carries -/

/-- The expiry is a number of 64 bits. -/
def ExpiryFits (q : LinkQuery) : Prop :=
  -(greatestExpiry + 1 : Int) ≤ q.payload.expires ∧ q.payload.expires ≤ greatestExpiry

/-- **Pairs carry a link**: each of its fields stands once among them, the snapshot if there is one,
the mode by its word and the expiry in decimal digits. -/
structure Carried (pairs : List (String × String)) (q : LinkQuery) : Prop where
  key : valuesOf "key" pairs = [q.payload.key]
  snapshot : valuesOf "snapshot" pairs = q.payload.snapshot.toList
  mode : valuesOf "mode" pairs = [q.payload.mode.word]
  expires : ∃ e : String, valuesOf "expires" pairs = [e] ∧
    Decimal.Spells e.toList q.payload.expires
  fits : q.ExpiryFits
  signature : valuesOf "signature" pairs = [q.signature]

/-- What filled slots carry. -/
theorem link?_eq_some_iff {s : Slots} {q : LinkQuery} : s.link? = some q ↔
    (∃ word, s.value? .mode = some word ∧ Mode.ofWord? word = some q.payload.mode) ∧
    (∃ e, s.value? .expires = some e ∧
      Decimal.readInt greatestExpiry e.toList = .ok q.payload.expires) ∧
    s.value? .key = some q.payload.key ∧ s.value? .snapshot = q.payload.snapshot ∧
    s.value? .signature = some q.signature := by
  have hread : ∀ {x : Except Decimal.Flaw Int} {n : Int}, x.toOption = some n ↔ x = .ok n := by
    intro x n
    cases x <;> simp [Except.toOption]
  obtain ⟨⟨key, snapshot, mode, expires⟩, signature⟩ := q
  simp only [Slots.link?, Option.bind_eq_bind, Option.bind_eq_some_iff, Option.pure_def,
    Option.some.injEq, LinkQuery.mk.injEq, Payload.mk.injEq, hread]
  constructor
  · rintro ⟨_, hmode, _, hexpires, _, hkey, _, hsignature, ⟨rfl, rfl, rfl, rfl⟩, rfl⟩
    exact ⟨hmode, hexpires, hkey, rfl, hsignature⟩
  · rintro ⟨hmode, hexpires, hkey, hsnapshot, hsignature⟩
    exact ⟨mode, hmode, expires, hexpires, key, hkey, signature, hsignature,
      ⟨rfl, hsnapshot, rfl, rfl⟩, rfl⟩

/-- **A query is read if and only if it carries a link.** -/
theorem ofPairs?_eq_some_iff {pairs : List (String × String)} {q : LinkQuery} :
    ofPairs? pairs = some q ↔ Carried pairs q := by
  have hvalues : ∀ {s : Slots}, Slots.empty.addAll? pairs = some s ↔
      ∀ field : Field, valuesOf field.name pairs = (s.value? field).toList :=
    Slots.addAll?_eq_some_iff
  rw [ofPairs?, Option.bind_eq_some_iff]
  constructor
  · rintro ⟨s, hs, hlink⟩
    have hs := hvalues.mp hs
    obtain ⟨⟨word, hmode, hword⟩, ⟨e, hexpires, hread⟩, hkey, hsnapshot, hsignature⟩ :=
      link?_eq_some_iff.mp hlink
    obtain ⟨hspells, hfits⟩ := Decimal.readInt_eq_ok_iff.mp hread
    exact {
      key := (hs .key).trans (congrArg Option.toList hkey)
      snapshot := (hs .snapshot).trans (congrArg Option.toList hsnapshot)
      mode := by
        rw [Mode.word_of_ofWord? hword]
        exact (hs .mode).trans (congrArg Option.toList hmode)
      expires := ⟨e, (hs .expires).trans (congrArg Option.toList hexpires), hspells⟩
      fits := hfits
      signature := (hs .signature).trans (congrArg Option.toList hsignature) }
  · intro h
    obtain ⟨e, hexpires, hspells⟩ := h.expires
    have hvalue : ∀ field : Field, ∃ value : Option String,
        valuesOf field.name pairs = value.toList := by
      intro field
      cases field with
      | key => exact ⟨some _, h.key⟩
      | snapshot => exact ⟨_, h.snapshot⟩
      | mode => exact ⟨some _, h.mode⟩
      | expires => exact ⟨some _, hexpires⟩
      | signature => exact ⟨some _, h.signature⟩
    have hhead : ∀ {field : Field} {v : Option String},
        valuesOf field.name pairs = v.toList → (valuesOf field.name pairs).head? = v := by
      intro field v hfield
      rw [hfield]
      cases v <;> rfl
    -- the slots hold what comes first for each field, and nothing comes behind it
    refine ⟨⟨fun field => (valuesOf field.name pairs).head?⟩, hvalues.mpr fun field => ?_,
      link?_eq_some_iff.mpr ?_⟩
    · obtain ⟨value, hfield⟩ := hvalue field
      exact hfield.trans (congrArg Option.toList (hhead hfield).symm)
    · have hread := Decimal.readInt_eq_ok_iff.mpr ⟨hspells, h.fits⟩
      exact ⟨⟨_, hhead (v := some _) h.mode, Mode.ofWord?_word _⟩,
        ⟨e, hhead (v := some _) hexpires, hread⟩, hhead (v := some _) h.key,
        hhead h.snapshot, hhead (v := some _) h.signature⟩

theorem pairs_ne_nil (q : LinkQuery) : q.pairs ≠ [] := List.cons_ne_nil _ _

/-- **Each name stands once** among the pairs of a link, with its own value. -/
theorem valuesOf_pairs (q : LinkQuery) :
    valuesOf "key" q.pairs = [q.payload.key] ∧
      valuesOf "snapshot" q.pairs = q.payload.snapshot.toList ∧
      valuesOf "mode" q.pairs = [q.payload.mode.word] ∧
      valuesOf "expires" q.pairs = [Decimal.intText q.payload.expires] ∧
      valuesOf "signature" q.pairs = [q.signature] := by
  obtain ⟨⟨key, snapshot, mode, expires⟩, signature⟩ := q
  -- the pairs are one fewer where there is no snapshot
  cases snapshot with
  | none => simp [valuesOf, pairs]
  | some snapshot => simp [valuesOf, pairs]

/-- The pairs of a link carry it. -/
theorem carried_pairs {q : LinkQuery} (h : q.ExpiryFits) : Carried q.pairs q := by
  obtain ⟨hkey, hsnapshot, hmode, hexpires, hsignature⟩ := valuesOf_pairs q
  have hspells : Decimal.Spells (Decimal.intText q.payload.expires).toList q.payload.expires := by
    rw [Decimal.intText, String.toList_ofList]
    exact Decimal.spells_ofInt _
  exact ⟨hkey, hsnapshot, hmode, ⟨_, hexpires, hspells⟩, h, hsignature⟩

/-- **A written query is read as what it was written from.** -/
theorem read?_write {q : LinkQuery} (h : q.ExpiryFits) :
    read? (String.ofList q.write) = some q := by
  rw [read?, write, Form.read_text q.pairs_ne_nil, ofPairs?_eq_some_iff.mpr (carried_pairs h)]

theorem isQueryChar_of_mem_write {q : LinkQuery} {c : Char} (h : c ∈ q.write) :
    Form.isQueryChar c = true :=
  Form.isQueryChar_of_mem_write h

/-- Beside its key, its snapshot and its expiry, what a query carries is short. -/
theorem length_write_le (q : LinkQuery) (hsignature : (Text.bytes q.signature).length ≤ 64) :
    q.write.length ≤ 320 + 3 * ((Text.bytes q.payload.key).length +
      (Text.bytes (q.payload.snapshot.getD "")).length +
      (Text.bytes (Decimal.intText q.payload.expires)).length) := by
  obtain ⟨⟨key, snapshot, mode, expires⟩, signature⟩ := q
  have hnames : (Text.bytes "key").length = 3 ∧ (Text.bytes "snapshot").length = 8 ∧
      (Text.bytes "mode").length = 4 ∧ (Text.bytes "expires").length = 7 ∧
      (Text.bytes "signature").length = 9 := by decide
  have hmode : (Text.bytes mode.word).length ≤ 8 := by cases mode <;> decide
  have hwrite := Form.length_write_le (pairs ⟨⟨key, snapshot, mode, expires⟩, signature⟩)
  rw [← write] at hwrite
  dsimp only at hsignature ⊢
  cases snapshot with
  | none =>
    simp only [pairs, Option.map_none, Option.toList_none, List.nil_append, List.map_cons,
      List.map_nil, List.sum_cons, List.sum_nil] at hwrite
    rw [Option.getD_none]
    omega
  | some snapshot =>
    simp only [pairs, Option.map_some, Option.toList_some, List.singleton_append, List.map_cons,
      List.map_nil, List.sum_cons, List.sum_nil] at hwrite
    rw [Option.getD_some]
    omega

end LogVault.LinkQuery
