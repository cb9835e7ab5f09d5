import LogVault.Proofs.Text.Decimal
import LogVault.Url.Ipv4
import Mathlib.Tactic.Ring

/-!
# LogVault.Proofs.Url.Ipv4 — the dotted form of an address

An address that was read is below `2^32` (`lt_of_ofHost?`), its dotted form ends in a number
(`endsInNumber_write`), and reading that form gives the address back (`ofHost?_write`).
-/

namespace LogVault.Url.Ipv4

/-! ## The bound -/

/-- Numbers of one octet each, put one after another. -/
theorem foldl_lt_pow (front : List Nat) (h : ∀ n ∈ front, n ≤ 255) (acc : Nat) :
    front.foldl (256 * · + ·) acc < (acc + 1) * 256 ^ front.length := by
  induction front generalizing acc with
  | nil => simp
  | cons n front ih =>
    have hn := h n List.mem_cons_self
    have hrest := ih (fun m hm => h m (List.mem_cons_of_mem n hm)) (256 * acc + n)
    rw [List.foldl_cons, List.length_cons]
    calc front.foldl (256 * · + ·) (256 * acc + n)
        < (256 * acc + n + 1) * 256 ^ front.length := hrest
      _ ≤ (256 * (acc + 1)) * 256 ^ front.length := Nat.mul_le_mul_right _ (by omega)
      _ = (acc + 1) * 256 ^ (front.length + 1) := by rw [Nat.pow_succ]; ring

theorem lt_of_ofNumbers? {numbers : List Nat} {a : Ipv4} (h : ofNumbers? numbers = some a) :
    a.value < 2 ^ 32 := by
  unfold ofNumbers? at h
  split at h
  · cases h
  · next last hlast =>
    dsimp only at h
    split at h
    · cases h
    · next hbounds =>
      simp only [Bool.or_eq_true, decide_eq_true_eq, List.any_eq_true, not_or, not_exists,
        not_and, Nat.not_lt, Nat.not_le] at hbounds
      obtain ⟨⟨hlength, hfront⟩, hlast⟩ := hbounds
      cases h
      generalize numbers.dropLast = front at hlength hfront hlast ⊢
      have hfold := foldl_lt_pow front (fun n hn => hfront n hn) 0
      rw [Nat.zero_add, Nat.one_mul] at hfold
      have hpow : 256 ^ front.length * 256 ^ (4 - front.length) = 2 ^ 32 := by
        rw [← Nat.pow_add, Nat.add_sub_cancel' (by omega)]
        decide
      -- the last number fills the octets that the others leave
      calc front.foldl (256 * · + ·) 0 * Nat.pow 256 (4 - front.length) + last
          < front.foldl (256 * · + ·) 0 * 256 ^ (4 - front.length) + 256 ^ (4 - front.length) :=
            Nat.add_lt_add_left hlast _
        _ = (front.foldl (256 * · + ·) 0 + 1) * 256 ^ (4 - front.length) := by ring
        _ ≤ 256 ^ front.length * 256 ^ (4 - front.length) := Nat.mul_le_mul_right _ hfold
        _ = 2 ^ 32 := hpow

theorem lt_of_ofHost? {host : List Char} {a : Ipv4} (h : ofHost? host = some a) :
    a.value < 2 ^ 32 := by
  obtain ⟨numbers, -, hnumbers⟩ := Option.bind_eq_some_iff.mp h
  exact lt_of_ofNumbers? hnumbers

/-! ## The dotted form -/

/-- The four octets of an address. -/
def octets (a : Ipv4) : List Nat :=
  [(a.value >>> 24) % 256, (a.value >>> 16) % 256, (a.value >>> 8) % 256, a.value % 256]

theorem write_eq_intercalate (a : Ipv4) :
    a.write = ['.'].intercalate (a.octets.map Decimal.ofNat) := by
  simp [write, octets, List.intercalate_cons_of_ne_nil]

theorem point_not_mem_ofNat (n : Nat) : '.' ∉ Decimal.ofNat n := fun h =>
  absurd (Decimal.isDigit_of_mem_ofNat h) (by decide)

theorem mem_write {a : Ipv4} {c : Char} (h : c ∈ a.write) : c.isDigit = true ∨ c = '.' := by
  simp only [write, List.mem_append, List.mem_cons] at h
  rcases h with ((h | rfl | h) | rfl | h) | rfl | h
  · exact .inl (Decimal.isDigit_of_mem_ofNat h)
  · exact .inr rfl
  · exact .inl (Decimal.isDigit_of_mem_ofNat h)
  · exact .inr rfl
  · exact .inl (Decimal.isDigit_of_mem_ofNat h)
  · exact .inr rfl
  · exact .inl (Decimal.isDigit_of_mem_ofNat h)

/-- **The labels of the dotted form** are its four numbers. -/
theorem splitOn_write (a : Ipv4) : a.write.splitOn '.' = a.octets.map Decimal.ofNat := by
  rw [write_eq_intercalate]
  apply List.splitOn_intercalate
  · intro l hl
    obtain ⟨n, -, rfl⟩ := List.mem_map.mp hl
    exact point_not_mem_ofNat n
  · simp [octets]

theorem labels_write (a : Ipv4) : labels a.write = a.octets.map Decimal.ofNat := by
  have hlast : (a.octets.map Decimal.ofNat).getLast? ≠ some [] := by
    obtain ⟨c, rest, hcons, -⟩ := Decimal.exists_cons_ofNat (a.value % 256)
    simp [octets, hcons]
  rw [labels, splitOn_write, if_neg hlast]

theorem endsInNumber_write (a : Ipv4) : endsInNumber a.write = true := by
  have hdigits := Decimal.isDigits_ofNat (a.value % 256)
  rw [Decimal.isDigits, Bool.and_eq_true] at hdigits
  simp [endsInNumber, labels_write, octets, hdigits.1, hdigits.2]

theorem labelValue?_ofNat : ∀ n, n < 256 → labelValue? (Decimal.ofNat n) = some n := by
  decide +kernel

/-- **An address is read back** from its dotted form. -/
theorem ofHost?_write {a : Ipv4} (h : a.value < 2 ^ 32) : ofHost? a.write = some a := by
  have hvalues : (labels a.write).mapM labelValue? = some a.octets := by
    rw [labels_write]
    simp only [octets, List.map_cons, List.map_nil, List.mapM_cons, List.mapM_nil,
      labelValue?_ofNat _ (Nat.mod_lt _ (by decide : 0 < 256)), Option.bind_eq_bind,
      Option.bind_some, Option.pure_def]
  have hnumbers : ofNumbers? a.octets = some a := by
    obtain ⟨value⟩ := a
    change value < 2 ^ 32 at h
    simp [ofNumbers?, octets, Nat.shiftRight_eq_div_pow]
    omega
  rw [ofHost?, hvalues]
  exact hnumbers

end LogVault.Url.Ipv4
