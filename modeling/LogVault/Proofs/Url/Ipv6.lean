import LogVault.Url.Ipv6
import Mathlib.Algebra.Group.Nat.Defs
import Mathlib.Data.List.TakeWhile

/-!
# LogVault.Proofs.Url.Ipv6 — the shortened form of an address

What is read is an address: eight numbers of sixteen bits (`isAddress_of_ofText?`). What is written
is read as the same address (`ofText?_write`): the double colon stands for a run of zeros that is
really there, and the groups on both sides of it are read number by number.
-/

namespace LogVault.Url

/-! ## Hexadecimal numbers -/

namespace Ipv4

theorem hexValue?_concat (l : List Char) (c : Char) :
    hexValue? (l ++ [c]) = (hexValue? l).bind fun n => (Hex.value? c).map (16 * n + ·) := by
  rw [hexValue?, List.foldl_append]
  show (hexValue? l).bind _ = _
  cases hexValue? l with
  | none => rfl
  | some n => cases Hex.value? c <;> rfl

theorem value?_digitChar : ∀ n, n < 16 → Hex.value? n.digitChar = some n := by decide

/-- **A number is read back** from its hexadecimal digits. -/
theorem hexValue?_toDigits (n : Nat) : hexValue? (Nat.toDigits 16 n) = some n := by
  induction n using Nat.strongRecOn with
  | ind n ih =>
    rw [Nat.toDigits_eq_if (by decide)]
    split
    · next h =>
      rw [← List.nil_append [n.digitChar], hexValue?_concat, value?_digitChar n h]
      simp [hexValue?]
    · next h =>
      have hquotient := ih (n / 16) (by omega)
      have hdigit := value?_digitChar (n % 16) (Nat.mod_lt _ (by decide))
      rw [hexValue?_concat, hquotient, hdigit, Option.bind_some, Option.map_some,
        Nat.div_add_mod]

/-- A digit is of ASCII, and its value is below sixteen. -/
theorem lt_of_value? {c : Char} {n : Nat} (h : Hex.value? c = some n) :
    n < 16 ∧ c.toNat < 0x80 := by
  simp only [Hex.value?, Char.le_def, UInt32.le_iff_toNat_le] at h
  change (if _ ∧ c.toNat ≤ 57 then some (c.toNat - 48)
    else if _ ∧ c.toNat ≤ 102 then some (c.toNat - 87)
    else if _ ∧ c.toNat ≤ 70 then some (c.toNat - 55) else none) = some n at h
  split at h
  · cases h
    omega
  · split at h
    · cases h
      omega
    · split at h
      · cases h
        omega
      · cases h

/-- A text that reads as a hexadecimal number has room for it, and digits only. -/
theorem of_hexValue? {l : List Char} {n : Nat} (h : hexValue? l = some n) :
    n < 16 ^ l.length ∧ ∀ c ∈ l, (Hex.value? c).isSome := by
  -- from the last digit, since the value is folded from the first
  induction hl : l.reverse generalizing l n with
  | nil =>
    obtain rfl : l = [] := List.reverse_eq_nil_iff.mp hl
    cases h
    exact ⟨by decide, fun c hc => absurd hc List.not_mem_nil⟩
  | cons c front ih =>
    obtain rfl : l = front.reverse ++ [c] := by
      rw [← List.reverse_reverse l, hl, List.reverse_cons]
    rw [hexValue?_concat] at h
    obtain ⟨m, hm, h⟩ := Option.bind_eq_some_iff.mp h
    obtain ⟨d, hd, rfl⟩ := Option.map_eq_some_iff.mp h
    obtain ⟨hlt, hdigits⟩ := ih hm (List.reverse_reverse front)
    constructor
    · have hd16 := (lt_of_value? hd).1
      rw [List.length_append, List.length_singleton, Nat.pow_succ]
      omega
    · intro x hx
      rcases List.mem_append.mp hx with hx | hx
      · exact hdigits x hx
      · rw [List.mem_singleton.mp hx, hd, Option.isSome_some]

end Ipv4

namespace Ipv6

theorem isSome_value?_of_mem_toDigits {n : Nat} {c : Char} (h : c ∈ Nat.toDigits 16 n) :
    (Hex.value? c).isSome :=
  (Ipv4.of_hexValue? (Ipv4.hexValue?_toDigits n)).2 c h

theorem colon_not_mem_toDigits (n : Nat) : ':' ∉ Nat.toDigits 16 n := fun h =>
  absurd (isSome_value?_of_mem_toDigits h) (by decide)

theorem point_not_mem_toDigits (n : Nat) : '.' ∉ Nat.toDigits 16 n := fun h =>
  absurd (isSome_value?_of_mem_toDigits h) (by decide)

/-! ## What is read -/

/-- Eight numbers of sixteen bits. -/
structure IsAddress (a : Ipv6) : Prop where
  length_pieces : a.pieces.length = 8
  lt_of_mem : ∀ n ∈ a.pieces, n < 2 ^ 16

theorem lt_of_piece? {l : List Char} {n : Nat} (h : piece? l = some n) : n < 2 ^ 16 := by
  unfold piece? at h
  split at h
  · cases h
  · next hlength =>
    simp only [Bool.or_eq_true, decide_eq_true_eq, not_or, Nat.not_lt] at hlength
    have hlt := (Ipv4.of_hexValue? h).1
    calc n < 16 ^ l.length := hlt
      _ ≤ 16 ^ 4 := Nat.pow_le_pow_right (by decide) hlength.2
      _ = 2 ^ 16 := by decide

theorem le_of_octet? {l : List Char} {n : Nat} (h : octet? l = some n) : n ≤ 255 := by
  unfold octet? at h
  split at h
  · cases h
  · cases h
  · split at h
    · next hvalue =>
      cases h
      rw [Bool.and_eq_true, decide_eq_true_eq] at hvalue
      exact hvalue.2
    · cases h

/-- Each result of a reader that was applied to every member of a list. -/
theorem exists_of_mem_of_mapM {α β : Type} {f : α → Option β} {l : List α} {results : List β}
    (h : l.mapM f = some results) {b : β} (hb : b ∈ results) : ∃ a, f a = some b := by
  induction l generalizing results with
  | nil =>
    cases h
    exact absurd hb List.not_mem_nil
  | cons a l ih =>
    rw [List.mapM_cons] at h
    obtain ⟨first, hfirst, h⟩ := Option.bind_eq_some_iff.mp h
    obtain ⟨others, hothers, h⟩ := Option.bind_eq_some_iff.mp h
    cases h
    rcases List.mem_cons.mp hb with rfl | hb
    · exact ⟨a, hfirst⟩
    · exact ih hothers hb

theorem lt_of_dotted? {l : List Char} {pieces : List Nat} (h : dotted? l = some pieces) :
    ∀ n ∈ pieces, n < 2 ^ 16 := by
  unfold dotted? at h
  split at h
  · next a b c d hoctets =>
    have hle : ∀ n ∈ [a, b, c, d], n ≤ 255 := fun n hn =>
      let ⟨_, hn⟩ := exists_of_mem_of_mapM hoctets hn
      le_of_octet? hn
    cases h
    simp only [List.mem_cons, List.not_mem_nil, or_false, forall_eq_or_imp, forall_eq] at hle ⊢
    omega
  · cases h

theorem lt_of_groups? {groups : List (List Char)} {pieces : List Nat}
    (h : groups? groups = some pieces) : ∀ n ∈ pieces, n < 2 ^ 16 := by
  induction groups using groups?.induct generalizing pieces with
  | case1 =>
    cases h
    exact fun n hn => absurd hn List.not_mem_nil
  | case2 g hpoint =>
    rw [groups?, if_pos hpoint] at h
    exact lt_of_dotted? h
  | case3 g hpoint =>
    rw [groups?, if_neg hpoint] at h
    obtain ⟨n, hn, rfl⟩ := Option.map_eq_some_iff.mp h
    intro m hm
    rw [List.mem_singleton.mp hm]
    exact lt_of_piece? hn
  | case4 g gs hgs ih =>
    rw [groups?] at h
    · obtain ⟨first, hfirst, h⟩ := Option.bind_eq_some_iff.mp h
      obtain ⟨others, hothers, h⟩ := Option.bind_eq_some_iff.mp h
      cases h
      exact List.forall_mem_cons.mpr ⟨lt_of_piece? hfirst, ih hothers⟩
    · exact hgs

/-- **What is read is an address.** -/
theorem isAddress_of_ofText? {l : List Char} {a : Ipv6} (h : ofText? l = some a) :
    a.IsAddress := by
  unfold ofText? at h
  split at h
  · -- without a double colon all eight groups are there
    split at h
    · next pieces hpieces =>
      split at h
      · next hlength =>
        cases h
        exact ⟨hlength, lt_of_groups? hpieces⟩
      · cases h
    · cases h
  · next before after hcut =>
    -- with one, zeros fill what is missing
    split at h
    · next front back hfront hback =>
      split at h
      · next hlength =>
        cases h
        constructor
        · simp only [List.length_append, List.length_replicate]
          omega
        · simp only [List.mem_append]
          rintro n ((hn | hn) | hn)
          · obtain ⟨g, hg⟩ := exists_of_mem_of_mapM hfront hn
            exact lt_of_piece? hg
          · rw [List.eq_of_mem_replicate hn]
            decide
          · exact lt_of_groups? hback n hn
      · cases h
    · cases h

/-! ## The run that is shortened -/

/-- From a place on there are so many zeros among the numbers. -/
def IsRun (pieces : List Nat) (run : Nat × Nat) : Prop :=
  ∃ front back, pieces = front ++ List.replicate run.2 0 ++ back ∧ front.length = run.1

theorem takeWhile_zero (pieces : List Nat) :
    pieces.takeWhile (· = 0) = List.replicate (zeros pieces) 0 := by
  refine List.eq_replicate_iff.mpr ⟨rfl, fun n hn => ?_⟩
  have hn := List.mem_takeWhile_imp hn
  exact of_decide_eq_true hn

/-- The zeros in front of what follows a part of the numbers are a run. -/
theorem isRun_zeros (front rest : List Nat) : IsRun (front ++ rest) (front.length, zeros rest) := by
  refine ⟨front, rest.dropWhile (· = 0), ?_, rfl⟩
  rw [← takeWhile_zero, List.append_assoc, List.takeWhile_append_dropWhile]

theorem isRun_longestRun {front rest : List Nat} {best : Nat × Nat}
    (h : IsRun (front ++ rest) best) :
    IsRun (front ++ rest) (longestRun best front.length rest) := by
  induction rest generalizing front best with
  | nil => exact h
  | cons n rest ih =>
    rw [longestRun]
    have hbest : IsRun (front ++ n :: rest)
        (if best.2 < zeros (n :: rest) then (front.length, zeros (n :: rest)) else best) := by
      split
      · exact isRun_zeros front (n :: rest)
      · exact h
    -- the number just looked at belongs to the part in front from here on
    have hmove : front ++ n :: rest = (front ++ [n]) ++ rest := by
      rw [List.append_assoc, List.singleton_append]
    have hlength : front.length + 1 = (front ++ [n]).length := by
      rw [List.length_append, List.length_singleton]
    rw [hmove] at hbest ⊢
    rw [hlength]
    exact ih hbest

/-! ## Groups -/

theorem piece?_toDigits {n : Nat} (h : n < 2 ^ 16) : piece? (Nat.toDigits 16 n) = some n := by
  have hlength : (Nat.toDigits 16 n).length ≤ 4 :=
    (Nat.length_toDigits_le_iff (by decide) (by decide)).mpr h
  have hempty : (Nat.toDigits 16 n).isEmpty = false := by
    rw [List.isEmpty_eq_false_iff]
    exact Nat.toDigits_ne_nil
  rw [piece?, hempty, Bool.false_or, if_neg (by rw [decide_eq_true_eq]; omega)]
  exact Ipv4.hexValue?_toDigits n

theorem mapM_piece?_toDigits {pieces : List Nat} (h : ∀ n ∈ pieces, n < 2 ^ 16) :
    (pieces.map (Nat.toDigits 16)).mapM piece? = some pieces := by
  induction pieces with
  | nil => rfl
  | cons n rest ih =>
    obtain ⟨hn, hrest⟩ := List.forall_mem_cons.mp h
    simp only [List.map_cons, List.mapM_cons, piece?_toDigits hn, ih hrest, Option.bind_eq_bind,
      Option.bind_some, Option.pure_def]

theorem groups?_toDigits {pieces : List Nat} (h : ∀ n ∈ pieces, n < 2 ^ 16) :
    groups? (pieces.map (Nat.toDigits 16)) = some pieces := by
  induction pieces with
  | nil => rfl
  | cons n rest ih =>
    obtain ⟨hn, hrest⟩ := List.forall_mem_cons.mp h
    cases rest with
    | nil =>
      have hpoint : (Nat.toDigits 16 n).contains '.' = false := by
        rw [List.contains_eq_mem]
        exact decide_eq_false (point_not_mem_toDigits n)
      simp only [List.map_cons, List.map_nil, groups?, hpoint, Bool.false_eq_true, if_false,
        piece?_toDigits hn, Option.map_some]
    | cons m rest =>
      have hothers := ih hrest
      rw [List.map_cons] at hothers ⊢
      rw [List.map_cons, groups?, piece?_toDigits hn, hothers]
      · rfl
      · exact List.cons_ne_nil _ _

theorem joined_cons_cons (n m : Nat) (rest : List Nat) :
    joined (n :: m :: rest) = Nat.toDigits 16 n ++ ':' :: joined (m :: rest) := by
  simp [joined, List.intercalate_cons_of_ne_nil]

theorem joined_singleton (n : Nat) : joined [n] = Nat.toDigits 16 n := by
  simp [joined]

/-- Numbers that are there begin with a digit. -/
theorem exists_cons_joined (n : Nat) (rest : List Nat) :
    ∃ c l, joined (n :: rest) = c :: l ∧ c ≠ ':' := by
  obtain ⟨c, l, hdigits⟩ := List.exists_cons_of_ne_nil (Nat.toDigits_ne_nil (n := n) (b := 16))
  have hc : c ≠ ':' := by
    rintro rfl
    exact colon_not_mem_toDigits n (hdigits ▸ List.mem_cons_self)
  cases rest with
  | nil => exact ⟨c, l, by rw [joined_singleton, hdigits], hc⟩
  | cons m rest =>
    refine ⟨c, l ++ ':' :: joined (m :: rest), ?_, hc⟩
    rw [joined_cons_cons, hdigits, List.cons_append]

theorem colonGroups_joined (pieces : List Nat) :
    colonGroups (joined pieces) = pieces.map (Nat.toDigits 16) := by
  cases pieces with
  | nil => rfl
  | cons n rest =>
    obtain ⟨c, l, hcons, -⟩ := exists_cons_joined n rest
    have hempty : (joined (n :: rest)).isEmpty = false := by rw [hcons]; rfl
    rw [colonGroups, hempty, if_neg (by decide)]
    apply List.splitOn_intercalate
    · intro g hg
      obtain ⟨m, -, rfl⟩ := List.mem_map.mp hg
      exact colon_not_mem_toDigits m
    · exact List.cons_ne_nil _ _

/-! ## The double colon -/

/-- No double colon begins in a text without colons. -/
theorem cut_append {g : List Char} (h : ':' ∉ g) (rest : List Char) :
    cut (g ++ rest) = (cut rest).map fun p => (g ++ p.1, p.2) := by
  induction g with
  | nil => simp
  | cons c g ih =>
    rw [List.mem_cons, not_or] at h
    have hc : ∀ l, c :: (g ++ rest) ≠ ':' :: ':' :: l := fun l hl =>
      h.1 (List.head_eq_of_cons_eq hl).symm
    rw [List.cons_append, cut, ih h.2, Option.map_map]
    · rfl
    · exact fun l hl _ => h.1 hl.symm

theorem cut_colon_append {c : Char} (h : c ≠ ':') (l : List Char) :
    cut (':' :: c :: l) = (cut (c :: l)).map fun p => (':' :: p.1, p.2) := by
  rw [cut]
  rintro l' - hl
  exact h (List.head_eq_of_cons_eq hl)

/-- **The double colon** is looked for behind the numbers. -/
theorem cut_joined_append (pieces : List Nat) (rest : List Char) :
    cut (joined pieces ++ rest) = (cut rest).map fun p => (joined pieces ++ p.1, p.2) := by
  induction pieces with
  | nil => simp [joined]
  | cons n others ih =>
    cases others with
    | nil => rw [joined_singleton, cut_append (colon_not_mem_toDigits n)]
    | cons m others =>
      obtain ⟨c, l, hcons, hc⟩ := exists_cons_joined m others
      rw [joined_cons_cons, List.append_assoc, cut_append (colon_not_mem_toDigits n),
        List.cons_append]
      rw [hcons] at ih ⊢
      rw [List.cons_append, cut_colon_append hc, ← List.cons_append, ih, Option.map_map,
        Option.map_map]
      congr 1
      funext p
      simp

/-! ## Both together -/

/-- **An address is read back** from its shortened form. -/
theorem ofText?_write {a : Ipv6} (h : a.IsAddress) : ofText? a.write = some a := by
  obtain ⟨pieces⟩ := a
  obtain ⟨hlength, hlt⟩ := h
  change pieces.length = 8 at hlength
  change ∀ n ∈ pieces, n < 2 ^ 16 at hlt
  have hnone : IsRun ([] ++ pieces) (0, 0) := ⟨[], pieces, rfl, rfl⟩
  have hrun : IsRun pieces (longestRun (0, 0) 0 pieces) := isRun_longestRun hnone
  simp only [write]
  generalize longestRun (0, 0) 0 pieces = run at hrun ⊢
  split
  · -- no run is long enough to be shortened
    have hcut : cut (joined pieces) = none := by
      have hnone := cut_joined_append pieces []
      rwa [List.append_nil] at hnone
    simp only [ofText?, hcut, colonGroups_joined, groups?_toDigits hlt, hlength, if_true]
  · next hlong =>
    -- what is cut out is zeros, as many as the reader will miss
    obtain ⟨front, back, rfl, hfront⟩ := hrun
    rw [List.length_append, List.length_append, List.length_replicate] at hlength
    simp only [List.mem_append] at hlt
    have htake : (front ++ List.replicate run.2 0 ++ back).take run.1 = front := by
      rw [List.append_assoc, ← hfront, List.take_left]
    have hdrop : (front ++ List.replicate run.2 0 ++ back).drop (run.1 + run.2) = back := by
      apply List.drop_left'
      rw [List.length_append, List.length_replicate, hfront]
    have hcut : cut (joined front ++ ':' :: ':' :: joined back) =
        some (joined front, joined back) := by
      rw [cut_joined_append, cut, Option.map_some, List.append_nil]
    have hgap : 8 - front.length - back.length = run.2 := by omega
    rw [htake, hdrop]
    simp only [ofText?, hcut, colonGroups_joined,
      mapM_piece?_toDigits fun n hn => hlt n (.inl (.inl hn)),
      groups?_toDigits fun n hn => hlt n (.inr hn), hgap]
    rw [if_pos (by omega)]

/-- What an address is written with. -/
theorem mem_write {a : Ipv6} {c : Char} (h : c ∈ a.write) :
    c = ':' ∨ (Hex.value? c).isSome := by
  have hjoined : ∀ pieces, c ∈ joined pieces → c = ':' ∨ (Hex.value? c).isSome := by
    intro pieces hc
    induction pieces with
    | nil => exact absurd hc List.not_mem_nil
    | cons n others ih =>
      cases others with
      | nil =>
        rw [joined_singleton] at hc
        exact .inr (isSome_value?_of_mem_toDigits hc)
      | cons m others =>
        rw [joined_cons_cons, List.mem_append, List.mem_cons] at hc
        rcases hc with hc | rfl | hc
        · exact .inr (isSome_value?_of_mem_toDigits hc)
        · exact .inl rfl
        · exact ih hc
  simp only [write] at h
  split at h
  · exact hjoined _ h
  · simp only [List.mem_append, List.mem_cons] at h
    rcases h with h | rfl | rfl | h
    · exact hjoined _ h
    · exact .inl rfl
    · exact .inl rfl
    · exact hjoined _ h

end Ipv6

end LogVault.Url
