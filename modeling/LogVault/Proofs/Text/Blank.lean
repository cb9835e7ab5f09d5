import Mathlib.Data.List.DropRight
import LogVault.Proofs.Text.Cut
import LogVault.Text.Blank

/-!
# LogVault.Proofs.Text.Blank — what trimming takes away

Trimming takes from the end, and from the front, all members of a class and nothing else. So a text
is trimmed to a word without blanks just if there are only blanks before and behind that word
(`trimmed_eq_iff`).
-/

namespace LogVault.Text

/-! ## The end of a list -/

section Trailing

variable {α : Type} {p : α → Bool} {l after : List α}

theorem dropTrailing_eq_rdropWhile (p : α → Bool) (l : List α) :
    dropTrailing p l = l.rdropWhile p := rfl

/-- What is left does not end in a member of the class. -/
theorem getLast?_dropTrailing {a : α} (h : (dropTrailing p l).getLast? = some a) : p a = false := by
  obtain ⟨hne, rfl⟩ := List.mem_getLast?_eq_getLast h
  exact Bool.eq_false_iff.mpr (List.rdropWhile_last_not p l hne)

theorem dropTrailing_eq_self (h : ∀ a ∈ l.getLast?, p a = false) : dropTrailing p l = l :=
  List.rdropWhile_eq_self_iff.mpr fun hne => by
    rw [h _ (List.getLast_mem_getLast? hne)]
    decide

theorem dropTrailing_append (hl : ∀ a ∈ l.getLast?, p a = false)
    (hafter : ∀ a ∈ after, p a = true) : dropTrailing p (l ++ after) = l := by
  have hreverse : ∀ a ∈ after.reverse, p a = true := fun a ha => hafter a (List.mem_reverse.mp ha)
  rw [dropTrailing, List.reverse_append, List.dropWhile_append_of_pos hreverse, ← dropTrailing,
    dropTrailing_eq_self hl]

end Trailing

/-! ## Both ends of a text -/

/-- **A text is trimmed to a word** just if there are only blanks around it. -/
theorem trimmed_eq_iff {l word : List Char} (hne : word ≠ [])
    (hword : ∀ c ∈ word, isBlank c = false) :
    trimmed l = word ↔ ∃ before after, l = before ++ (word ++ after) ∧
      (∀ c ∈ before, isBlank c = true) ∧ ∀ c ∈ after, isBlank c = true := by
  constructor
  · rintro rfl
    refine ⟨l.takeWhile isBlank, (l.dropWhile isBlank).rtakeWhile isBlank, ?_,
      fun c => List.mem_takeWhile_imp, fun c => List.mem_rtakeWhile_imp⟩
    rw [trimmed, dropTrailing_eq_rdropWhile, List.rdropWhile_append_rtakeWhile,
      List.takeWhile_append_dropWhile]
  · rintro ⟨before, after, rfl, hbefore, hafter⟩
    -- the word begins with a character at which the front ends
    obtain ⟨c, rest, rfl⟩ := List.exists_cons_of_ne_nil hne
    have hdrop : (before ++ (c :: rest ++ after)).dropWhile isBlank = c :: rest ++ after :=
      dropWhile_append_cons_of_neg hbefore (hword c List.mem_cons_self)
    rw [trimmed, hdrop, dropTrailing_append (fun d hd => hword d (List.mem_of_getLast? hd)) hafter]

theorem isBlank_eq_false_of_isDigit {c : Char} (h : c.isDigit = true) : isBlank c = false := by
  simp only [Char.isDigit, Bool.and_eq_true, decide_eq_true_eq, ge_iff_le,
    UInt32.le_iff_toNat_le] at h
  have hlow : 48 ≤ c.toNat := h.1
  have hhigh : c.toNat ≤ 57 := h.2
  simp only [isBlank, Bool.or_eq_false_iff, Bool.and_eq_false_iff, decide_eq_false_iff_not,
    beq_eq_false_iff_ne]
  omega

end LogVault.Text
