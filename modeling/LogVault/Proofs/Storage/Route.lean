import LogVault.Proofs.Storage.FileTree

/-!
# LogVault.Proofs.Storage.Route — a name put at the end of a path

`Route.join` writes a path and a name below it. Whether or not the path ends in a slash, and also
when it is empty, the steps of what is written are the steps of the path and one step down to the
name (`stepsOf_join`); and it is a path that can be used, as long as it is not too long
(`ofText_join`).
-/

namespace LogVault.Route

/-- **A name that is one step down**: neither a path nor a point or two. -/
structure IsName (name : String) : Prop where
  ne_nil : name.toList ≠ []
  slash : '/' ∉ name.toList
  nul : '\x00' ∉ name.toList
  ne_point : name.toList ≠ ['.']
  ne_points : name.toList ≠ ['.', '.']

section Name

variable {name path : String}

theorem ofName_toList (h : IsName name) : Step.ofName name.toList = .down name := by
  rw [Step.ofName, if_neg h.ne_point, if_neg h.ne_points, String.ofList_toList]

/-- The pieces of a path that count. -/
def pieces (l : List Char) : List (List Char) := (l.splitOn '/').filter (!·.isEmpty)

theorem stepsOf_eq (s : String) : stepsOf s = (pieces s.toList).map Step.ofName := rfl

theorem pieces_append_slash (front back : List Char) :
    pieces (front ++ '/' :: back) = pieces front ++ pieces back := by
  rw [pieces, List.splitOn_append_cons_self, List.filter_append]
  rfl

theorem pieces_of_name (h : IsName name) : pieces name.toList = [name.toList] := by
  rw [pieces, List.splitOn_eq_singleton h.slash]
  simp [h.ne_nil]

/-- A slash at the end of a path is followed by no piece. -/
theorem pieces_concat_slash (l : List Char) : pieces (l ++ ['/']) = pieces l := by
  rw [pieces_append_slash, show pieces [] = [] from rfl, List.append_nil]

/-- **The steps of a path with a name below it.** -/
theorem stepsOf_join (h : IsName name) :
    stepsOf (join path name) = stepsOf path ++ [.down name] := by
  have hname : [Step.down name] = (pieces name.toList).map Step.ofName := by
    rw [pieces_of_name h, List.map_singleton, ofName_toList h]
  rw [stepsOf_eq, stepsOf_eq, hname, ← List.map_append]
  congr 1
  rw [join]
  split
  · next hempty =>
    rw [String.isEmpty_iff.mp hempty]
    rfl
  · split
    · next hslash =>
      -- the slash that ends the path is the one in front of the name
      obtain ⟨front, hfront⟩ := List.getLast?_eq_some_iff.mp hslash
      rw [String.toList_append, hfront, List.append_assoc, List.singleton_append,
        pieces_append_slash, pieces_concat_slash]
    · rw [String.toList_append, String.toList_append, List.append_assoc]
      exact pieces_append_slash _ _

/-- The name adds its own length, and the path at most a slash. -/
theorem length_bytes_join (path name : String) :
    (Text.bytes (join path name)).length =
      (Text.bytes (join path "")).length + (Text.bytes name).length := by
  have hnone : (Text.bytes "").length = 0 := rfl
  rw [join, join]
  split
  · rw [hnone, Nat.zero_add]
  · split
    · rw [Text.bytes_append, List.length_append, String.append_empty]
    · rw [Text.bytes_append, List.length_append, String.append_empty]

theorem length_bytes_le_join (path name : String) :
    (Text.bytes path).length ≤ (Text.bytes (join path name)).length := by
  rw [join]
  split
  · next hempty =>
    rw [String.isEmpty_iff.mp hempty]
    exact Nat.zero_le _
  · split
    · rw [Text.bytes_append, List.length_append]
      exact Nat.le_add_right _ _
    · rw [Text.bytes_append, Text.bytes_append, List.length_append, List.length_append]
      omega

theorem length_bytes_join_le (path name : String) :
    (Text.bytes (join path name)).length ≤
      (Text.bytes path).length + 1 + (Text.bytes name).length := by
  rw [join]
  split
  · omega
  · split
    · rw [Text.bytes_append, List.length_append]
      omega
    · have hslash : (Text.bytes "/").length = 1 := rfl
      exact Nat.le_of_eq (by
        rw [Text.bytes_append, Text.bytes_append, List.length_append, List.length_append, hslash])

/-- What is written is the path, perhaps a slash, and the name. -/
theorem exists_toList_join (path name : String) :
    ∃ slash, (∀ c ∈ slash, c = '/') ∧
      (join path name).toList = path.toList ++ slash ++ name.toList := by
  rw [join]
  split
  · next hempty =>
    refine ⟨[], fun _ h => absurd h List.not_mem_nil, ?_⟩
    rw [String.isEmpty_iff.mp hempty]
    rfl
  · split
    · exact ⟨[], fun _ h => absurd h List.not_mem_nil, by
        rw [String.toList_append, List.append_nil]⟩
    · exact ⟨['/'], fun _ h => List.mem_singleton.mp h, by
        rw [String.toList_append, String.toList_append]
        rfl⟩

theorem nul_not_mem_join (h : IsName name) (hpath : '\x00' ∉ path.toList) :
    '\x00' ∉ (join path name).toList := by
  obtain ⟨slash, hslash, htext⟩ := exists_toList_join path name
  rw [htext, List.mem_append, List.mem_append]
  rintro ((hmem | hmem) | hmem)
  · exact hpath hmem
  · exact absurd (hslash _ hmem) (by decide)
  · exact h.nul hmem

/-- **A path with a name below it can be used.** -/
theorem ofText_join (h : IsName name) (hpath : '\x00' ∉ path.toList)
    (hlength : (Text.bytes (join path name)).length ≤ longestPath) :
    ofText (join path name) = .ok ⟨stepsOf path ++ [.down name], false⟩ := by
  obtain ⟨slash, -, htext⟩ := exists_toList_join path name
  obtain ⟨front, last, hlast⟩ := (List.eq_nil_or_concat name.toList).resolve_left h.ne_nil
  rw [List.concat_eq_append] at hlast
  have hend : (join path name).toList.getLast? = some last := by
    rw [htext, hlast, ← List.append_assoc, List.getLast?_concat]
  have hne : (join path name).isEmpty = false := by
    rw [Bool.eq_false_iff, Ne, String.isEmpty_iff]
    intro hempty
    rw [hempty] at hend
    cases hend
  have hslash : (some last == some '/') = false := by
    rw [beq_eq_false_iff_ne]
    rintro heq
    cases heq
    exact h.slash (hlast ▸ List.mem_append_right _ List.mem_cons_self)
  have hnul : (join path name).toList.contains '\x00' = false := by
    rw [Bool.eq_false_iff, Ne, List.contains_iff_mem]
    exact nul_not_mem_join h hpath
  rw [ofText, hne, hnul, if_neg Bool.false_ne_true, if_neg Bool.false_ne_true,
    if_neg (Nat.not_lt.mpr hlength), stepsOf_join h, hend, hslash]

end Name

/-- The text of a path that can be used holds no NUL. -/
theorem nul_not_mem_of_ofText {s : String} {route : Route} (h : ofText s = .ok route) :
    '\x00' ∉ s.toList ∧ route.steps = stepsOf s := by
  unfold ofText at h
  split at h
  · cases h
  · split at h
    · cases h
    · next hnul =>
      split at h
      · cases h
      · cases h
        exact ⟨fun hmem => hnul (List.contains_iff_mem.mpr hmem), rfl⟩

theorem length_le_of_ofText {s : String} {route : Route} (h : ofText s = .ok route) :
    (Text.bytes s).length ≤ longestPath := by
  unfold ofText at h
  split at h
  · cases h
  · split at h
    · cases h
    · split at h
      · cases h
      · next hlength => exact Nat.not_lt.mp hlength

/-- **Whatever path can be used**, a name below it is one step more. -/
theorem eq_of_ofText_join {path name : String} {route : Route} (hname : IsName name)
    (h : ofText (join path name) = .ok route) :
    route = ⟨stepsOf path ++ [.down name], false⟩ := by
  obtain ⟨hnul, -⟩ := nul_not_mem_of_ofText h
  obtain ⟨slash, -, htext⟩ := exists_toList_join path name
  have hpath : '\x00' ∉ path.toList := by
    intro hmem
    apply hnul
    rw [htext]
    exact List.mem_append_left _ (List.mem_append_left _ hmem)
  rw [ofText_join hname hpath (length_le_of_ofText h)] at h
  exact (Except.ok.inj h).symm

end LogVault.Route
