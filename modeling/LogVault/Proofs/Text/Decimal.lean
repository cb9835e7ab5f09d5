import Mathlib.Algebra.Group.Nat.Hom
import LogVault.Proofs.Text.Cut
import LogVault.Text.Decimal

/-!
# LogVault.Proofs.Text.Decimal — numbers come back from their digits

No two integers are written alike (`ofInt_injective`). A number with zeros in front ends where its
digits end (`padded_append_inj`).

Reading takes digits with a sign or without one, zeros in front included, and nothing else, and then
looks at the range (`readInt_eq_ok_iff`). The text of an integer is one of those that spell it
(`spells_ofInt`).
-/

namespace LogVault.Decimal

/-! ## What is written -/

theorem isDigit_of_mem_ofNat {n : Nat} {c : Char} (h : c ∈ ofNat n) : c.isDigit = true :=
  Nat.isDigit_of_mem_toDigits (by decide) (by decide) h

theorem ofNat_injective {m n : Nat} (h : ofNat m = ofNat n) : m = n := by
  rw [← value_ofNat m, h, value_ofNat]

/-- A number is written with a digit in front. -/
theorem exists_cons_ofNat (n : Nat) : ∃ c rest, ofNat n = c :: rest ∧ c.isDigit = true := by
  have hpos : 0 < (ofNat n).length := Nat.length_toDigits_pos
  obtain ⟨c, rest, hcons⟩ := List.exists_cons_of_length_pos hpos
  refine ⟨c, rest, hcons, isDigit_of_mem_ofNat (n := n) ?_⟩
  rw [hcons]
  exact List.mem_cons_self

theorem ofNat_ne_minus_cons (n : Nat) (l : List Char) : ofNat n ≠ '-' :: l := by
  obtain ⟨c, rest, hcons, hdigit⟩ := exists_cons_ofNat n
  intro h
  rw [hcons, List.cons.injEq] at h
  rw [h.1] at hdigit
  exact absurd hdigit (by decide)

theorem ofInt_injective {i j : Int} (h : ofInt i = ofInt j) : i = j := by
  cases i with
  | ofNat m =>
    cases j with
    | ofNat n => rw [ofNat_injective h]
    | negSucc n => exact absurd h (ofNat_ne_minus_cons m _)
  | negSucc m =>
    cases j with
    | ofNat n => exact absurd h.symm (ofNat_ne_minus_cons n _)
    | negSucc n =>
      have hdigits : ofNat (m + 1) = ofNat (n + 1) := (List.cons.injEq .. ▸ h).2
      rw [Nat.succ.inj (ofNat_injective hdigits)]

/-- No number but zero is written with a zero in front. -/
theorem eq_zero_of_ofNat_eq_zero_cons {n : Nat} {l : List Char} (h : ofNat n = '0' :: l) :
    n = 0 := by
  induction n using Nat.strongRecOn generalizing l with
  | _ n ih =>
    by_cases hsmall : n < 10
    · have hall : ∀ n < 10, n.digitChar = '0' → n = 0 := by decide
      rw [ofNat, Nat.toDigits_of_lt_base hsmall, List.cons.injEq] at h
      exact hall n hsmall h.1
    · have hlarge : 10 ≤ n := Nat.le_of_not_lt hsmall
      obtain ⟨d, digits, hdigits, -⟩ := exists_cons_ofNat (n / 10)
      rw [ofNat, Nat.toDigits_of_base_le (by decide) hlarge, ← ofNat, hdigits, List.cons_append,
        List.cons.injEq] at h
      have hzero := ih (n / 10) (by omega) (hdigits.trans (by rw [h.1]))
      omega

/-! ## With zeros in front -/

theorem isDigit_of_mem_padded {width n : Nat} {c : Char} (h : c ∈ padded width n) :
    c.isDigit = true := by
  rcases List.mem_append.mp h with h | h
  · rw [List.eq_of_mem_replicate h]
    decide
  · exact isDigit_of_mem_ofNat h

theorem exists_cons_padded (width n : Nat) :
    ∃ c rest, padded width n = c :: rest ∧ c.isDigit = true := by
  obtain ⟨d, digits, hdigits, -⟩ := exists_cons_ofNat n
  have hne : padded width n ≠ [] := by
    rw [padded, hdigits]
    exact List.append_ne_nil_of_right_ne_nil _ (List.cons_ne_nil _ _)
  obtain ⟨c, rest, hcons⟩ := List.exists_cons_of_ne_nil hne
  have hmem : c ∈ padded width n := hcons ▸ List.mem_cons_self
  exact ⟨c, rest, hcons, isDigit_of_mem_padded hmem⟩

/-- Zeros in front do not count. -/
theorem value_padded (width n : Nat) : value (padded width n) = n := by
  have hzeros : ∀ k, Nat.ofDigitChars 10 (List.replicate k '0') 0 = 0 := by
    intro k
    induction k with
    | zero => rfl
    | succ k ih => rw [List.replicate_succ, Nat.ofDigitChars_cons, Nat.sub_self]; exact ih
  rw [value, padded, Nat.ofDigitChars_append, hzeros]
  exact value_ofNat n

theorem length_padded {width n : Nat} (hwidth : 0 < width) (h : n < 10 ^ width) :
    (padded width n).length = width := by
  have hlength : (ofNat n).length ≤ width :=
    (Nat.length_toDigits_le_iff (by decide) hwidth).mpr h
  rw [padded, List.length_append, List.length_replicate]
  omega

/-- **A number ends where its digits end**: what stands behind it cannot be taken for a part of
it. -/
theorem padded_append_inj {width width' m n : Nat} {c d : Char} {l k : List Char}
    (hc : c.isDigit = false) (hd : d.isDigit = false)
    (h : padded width m ++ c :: l = padded width' n ++ d :: k) : m = n ∧ c :: l = d :: k := by
  have hm : ∀ x ∈ padded width m, x.isDigit = true := fun _ => isDigit_of_mem_padded
  have hn : ∀ x ∈ padded width' n, x.isDigit = true := fun _ => isDigit_of_mem_padded
  constructor
  · have htake := congrArg (List.takeWhile Char.isDigit) h
    rw [Text.takeWhile_append_cons_of_neg hm hc, Text.takeWhile_append_cons_of_neg hn hd] at htake
    rw [← value_padded width m, htake, value_padded]
  · have hdrop := congrArg (List.dropWhile Char.isDigit) h
    rwa [Text.dropWhile_append_cons_of_neg hm hc, Text.dropWhile_append_cons_of_neg hn hd] at hdrop

/-! ## What can be read -/

/-- **A number in decimal digits**, with a sign in front or without one. -/
inductive Spells : List Char → Int → Prop
  | bare {digits : List Char} : isDigits digits = true → Spells digits (value digits)
  | plus {digits : List Char} : isDigits digits = true → Spells ('+' :: digits) (value digits)
  | minus {digits : List Char} : isDigits digits = true →
      Spells ('-' :: digits) (-(value digits : Int))

theorem isDigits_iff {l : List Char} :
    isDigits l = true ↔ l ≠ [] ∧ ∀ c ∈ l, c.isDigit = true := by
  simp only [isDigits, Bool.and_eq_true, Bool.not_eq_true', List.isEmpty_eq_false_iff, ne_eq,
    List.all_eq_true]

theorem isDigit_of_isDigits {l : List Char} (h : isDigits l = true) : ∀ c ∈ l, c.isDigit = true :=
  (isDigits_iff.mp h).2

/-- No sign is a digit. -/
theorem isDigits_cons_eq_false {c : Char} (h : c.isDigit = false) (l : List Char) :
    isDigits (c :: l) = false := by
  rw [Bool.eq_false_iff]
  intro hdigits
  rw [isDigit_of_isDigits hdigits c List.mem_cons_self] at h
  cases h

theorem readDigits_eq_ok_iff {max n : Nat} {l : List Char} :
    readDigits max l = .ok n ↔ isDigits l = true ∧ value l = n ∧ n ≤ max := by
  unfold readDigits
  by_cases hdigits : isDigits l = true
  · -- all of the text is taken for its value
    rw [List.takeWhile_eq_self_iff.mpr (isDigit_of_isDigits hdigits), if_pos hdigits]
    split
    · next hlarge => exact iff_of_false nofun (by omega)
    · next hsmall =>
      rw [Except.ok.injEq]
      exact ⟨fun h => ⟨hdigits, h, by omega⟩, fun h => h.2.1⟩
  · rw [if_neg hdigits]
    refine iff_of_false ?_ fun h => hdigits h.1
    split <;> exact nofun

theorem readNat_eq_ok_iff {max n : Nat} {l : List Char} : readNat max l = .ok n ↔
    (∃ digits, (l = digits ∨ l = '+' :: digits) ∧ isDigits digits = true ∧ value digits = n) ∧
      n ≤ max := by
  unfold readNat
  split
  · refine iff_of_false nofun ?_
    rintro ⟨⟨_, rfl | hplus, hdigits, -⟩, -⟩
    · cases hdigits
    · cases hplus
  · next rest =>
    rw [readDigits_eq_ok_iff]
    constructor
    · rintro ⟨hdigits, hvalue, hmax⟩
      exact ⟨⟨rest, .inr rfl, hdigits, hvalue⟩, hmax⟩
    · rintro ⟨⟨digits, rfl | hplus, hdigits, hvalue⟩, hmax⟩
      · rw [isDigits_cons_eq_false (by decide)] at hdigits
        cases hdigits
      · cases hplus
        exact ⟨hdigits, hvalue, hmax⟩
  · next hplus =>
    rw [readDigits_eq_ok_iff]
    constructor
    · rintro ⟨hdigits, hvalue, hmax⟩
      exact ⟨⟨l, .inl rfl, hdigits, hvalue⟩, hmax⟩
    · rintro ⟨⟨digits, rfl | rfl, hdigits, hvalue⟩, hmax⟩
      · exact ⟨hdigits, hvalue, hmax⟩
      · exact absurd rfl (hplus digits)

/-- **What is read as an integer**: digits with a sign or without one, in range. -/
theorem readInt_eq_ok_iff {max : Nat} {l : List Char} {n : Int} :
    readInt max l = .ok n ↔ Spells l n ∧ -(max + 1 : Int) ≤ n ∧ n ≤ max := by
  unfold readInt
  split
  · next rest =>
    have hread : ∀ {m : Nat}, readDigits (max + 1) rest = .ok m ↔
        isDigits rest = true ∧ value rest = m ∧ m ≤ max + 1 := readDigits_eq_ok_iff
    constructor
    · intro h
      split at h
      · next m hm =>
        cases h
        obtain ⟨hdigits, rfl, hmax⟩ := hread.mp hm
        exact ⟨.minus hdigits, by omega, by omega⟩
      · cases h
      · cases h
    · rintro ⟨hspells, hmin, -⟩
      cases hspells with
      | bare hdigits =>
        rw [isDigits_cons_eq_false (by decide)] at hdigits
        cases hdigits
      | minus hdigits => rw [hread.mpr ⟨hdigits, rfl, by omega⟩]
  · next hminus =>
    constructor
    · intro h
      cases hnat : readNat max l with
      | error e =>
        rw [hnat] at h
        cases h
      | ok m =>
        rw [hnat] at h
        cases h
        obtain ⟨⟨digits, hform, hdigits, rfl⟩, hmax⟩ := readNat_eq_ok_iff.mp hnat
        refine ⟨?_, by simp only [Int.ofNat_eq_natCast]; omega, by simpa using hmax⟩
        rcases hform with rfl | rfl
        · exact .bare hdigits
        · exact .plus hdigits
    · rintro ⟨hspells, -, hmax⟩
      cases hspells with
      | bare hdigits =>
        rw [readNat_eq_ok_iff.mpr ⟨⟨l, .inl rfl, hdigits, rfl⟩, by omega⟩]
        rfl
      | @plus digits hdigits =>
        rw [readNat_eq_ok_iff.mpr ⟨⟨digits, .inr rfl, hdigits, rfl⟩, by omega⟩]
        rfl
      | @minus digits hdigits => exact absurd rfl (hminus digits)

/-- **The text of an integer** spells it. -/
theorem spells_ofInt (i : Int) : Spells (ofInt i) i := by
  cases i with
  | ofNat n =>
    have h := Spells.bare (isDigits_ofNat n)
    rw [value_ofNat] at h
    exact h
  | negSucc n =>
    have h := Spells.minus (isDigits_ofNat (n + 1))
    rw [value_ofNat] at h
    exact h

end LogVault.Decimal
