import Mathlib.Data.List.TakeWhile

/-!
# LogVault.Proofs.Text.Cut — cutting a list at a separator

Keys, queries and URLs are taken apart by `takeWhile` and `dropWhile` up to the first of some
separator. Where the front holds no separator, the cut gives back exactly the front and the rest.
-/

namespace LogVault.Text

variable {α : Type}

/-! ## A class of separators -/

section Class

variable {p : α → Bool} {l rest : List α} {sep : α}

theorem takeWhile_append_cons_of_neg (h : ∀ a ∈ l, p a = true) (hsep : p sep = false) :
    (l ++ sep :: rest).takeWhile p = l := by
  rw [List.takeWhile_append_of_pos h, List.takeWhile_cons_of_neg (by simp [hsep]), List.append_nil]

theorem dropWhile_append_cons_of_neg (h : ∀ a ∈ l, p a = true) (hsep : p sep = false) :
    (l ++ sep :: rest).dropWhile p = sep :: rest := by
  rw [List.dropWhile_append_of_pos h, List.dropWhile_cons_of_neg (by simp [hsep])]

end Class

/-! ## One separator -/

section Separator

variable [DecidableEq α] {sep : α} {l rest : List α}

/-- Everything in a list without the separator differs from it. -/
theorem forall_mem_bne (h : sep ∉ l) : ∀ a ∈ l, (a != sep) = true := by
  intro a ha
  rw [bne_iff_ne]
  rintro rfl
  exact h ha

theorem takeWhile_bne_append_cons (h : sep ∉ l) :
    (l ++ sep :: rest).takeWhile (· != sep) = l :=
  takeWhile_append_cons_of_neg (forall_mem_bne h) (bne_self_eq_false sep)

theorem dropWhile_bne_append_cons (h : sep ∉ l) :
    (l ++ sep :: rest).dropWhile (· != sep) = sep :: rest :=
  dropWhile_append_cons_of_neg (forall_mem_bne h) (bne_self_eq_false sep)

theorem takeWhile_bne_eq_self (h : sep ∉ l) : l.takeWhile (· != sep) = l :=
  List.takeWhile_eq_self_iff.mpr (forall_mem_bne h)

theorem dropWhile_bne_eq_nil (h : sep ∉ l) : l.dropWhile (· != sep) = [] :=
  List.dropWhile_eq_nil_iff.mpr (forall_mem_bne h)

/-- No piece of a list that is cut at a separator holds it. -/
theorem notMem_of_mem_splitOn {piece : List α} (h : piece ∈ l.splitOn sep) : sep ∉ piece := by
  induction l generalizing piece with
  | nil =>
    rw [List.splitOn_nil, List.mem_singleton] at h
    exact h ▸ List.not_mem_nil
  | cons a l ih =>
    rw [List.splitOn_cons_eq_if_modifyHead] at h
    obtain ⟨first, pieces, hpieces⟩ := List.exists_cons_of_ne_nil (List.splitOn_ne_nil sep l)
    rw [hpieces] at ih h
    split at h
    · rcases List.mem_cons.mp h with rfl | h
      · exact List.not_mem_nil
      · exact ih h
    · next hne =>
      rcases List.mem_cons.mp h with rfl | h
      · -- what is not the separator joins the first piece
        rw [List.mem_cons, not_or]
        exact ⟨fun heq => hne (beq_iff_eq.mpr heq.symm), ih List.mem_cons_self⟩
      · exact ih (List.mem_cons_of_mem first h)

end Separator

/-- Pieces that are joined hold the same as before, up to the separators. -/
theorem mem_intercalate_iff {pieces : List (List α)} {sep a : α} (ha : a ≠ sep) :
    a ∈ [sep].intercalate pieces ↔ ∃ piece ∈ pieces, a ∈ piece := by
  induction pieces with
  | nil => exact iff_of_false List.not_mem_nil (by simp)
  | cons piece rest ih =>
    cases rest with
    | nil => simp
    | cons next rest =>
      rw [List.intercalate_cons_cons, List.mem_append, List.mem_append, List.mem_singleton, ih,
        or_iff_left ha]
      simp only [List.mem_cons (b := piece), exists_eq_or_imp]

end LogVault.Text
