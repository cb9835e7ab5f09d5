import LogVault.Proofs.Text.Utf8
import LogVault.Text.Percent

/-!
# LogVault.Proofs.Text.Percent — octets behind escapes

Reading an escape gives the octet that it was written for (`decode_escape_append`), and octets that
are no percent sign are read as themselves. Writing leaves a text of ASCII alone whose octets all
stand for themselves (`encodeText_eq_self`), and what it writes is either such an octet or made of
escapes (`forall_mem_encode`). A writer that escapes the percent sign can be read back, so it writes
no two texts alike (`encodeText_injective`).
-/

namespace LogVault.Percent

open Utf8 (octet toNat_octet encode_of_ascii)

/-! ## The digits of an escape -/

/-- A character of an escape: the percent sign or a hexadecimal digit in upper case. -/
def isEscapeChar (c : Char) : Bool :=
  c == '%' || (0x30 ≤ c.toNat && c.toNat ≤ 0x39) || (0x41 ≤ c.toNat && c.toNat ≤ 0x46)

theorem toNat_lt_of_isEscapeChar {c : Char} (h : isEscapeChar c = true) : c.toNat < 0x80 := by
  simp only [isEscapeChar, Bool.or_eq_true, Bool.and_eq_true, decide_eq_true_eq, beq_iff_eq] at h
  rcases h with (rfl | h) | h
  · decide
  · omega
  · omega

theorem isEscapeChar_upperDigit : ∀ n, n < 16 → isEscapeChar (upperDigit n) = true := by decide

theorem digitValue?_upperDigit : ∀ n, n < 16 → digitValue? (octet (upperDigit n)) = some n := by
  decide

theorem isEscapeChar_of_mem_escape {b : UInt8} {c : Char} (h : c ∈ escape b) :
    isEscapeChar c = true := by
  have hb : b.toNat < 256 := b.toNat_lt
  simp only [escape, List.mem_cons, List.not_mem_nil, or_false] at h
  rcases h with rfl | rfl | rfl
  · rfl
  · exact isEscapeChar_upperDigit _ (by omega)
  · exact isEscapeChar_upperDigit _ (by omega)

/-! ## Reading -/

theorem decode_cons_of_ne_sign {b : UInt8} (h : b ≠ sign) (rest : Bytes) :
    decode (b :: rest) = b :: decode rest := by
  match rest with
  | [] => rfl
  | [_] => rfl
  | _ :: _ :: _ => rw [decode, if_neg h]

/-- **An escape stands for its octet**, whatever follows. -/
theorem decode_escape_append (b : UInt8) (rest : Bytes) :
    decode ((escape b).map octet ++ rest) = b :: decode rest := by
  have hb : b.toNat < 256 := b.toNat_lt
  have hhigh := digitValue?_upperDigit (b.toNat / 16) (by omega)
  have hlow := digitValue?_upperDigit (b.toNat % 16) (by omega)
  have hsign : octet '%' = sign := by decide
  simp only [escape, List.map_cons, List.map_nil, List.cons_append, List.nil_append, hsign]
  rw [decode, if_pos rfl, hhigh, hlow]
  simp only [Nat.div_add_mod, UInt8.ofNat_toNat]

theorem decode_eq_self {l : Bytes} (h : sign ∉ l) : decode l = l := by
  induction l with
  | nil => rfl
  | cons b l ih =>
    rw [List.mem_cons, not_or] at h
    rw [decode_cons_of_ne_sign (Ne.symm h.1), ih h.2]

/-! ## Writing -/

variable {keep : UInt8 → Bool}

/-- What writing gives holds a property that escapes and the octets that are kept have. -/
theorem forall_mem_encode {P : Char → Prop} {l : Bytes} (hescape : ∀ c, isEscapeChar c = true → P c)
    (hkeep : ∀ b ∈ l, keep b = true → P (Char.ofNat b.toNat)) : ∀ c ∈ encode keep l, P c := by
  intro c hc
  obtain ⟨b, hb, hcb⟩ := List.mem_flatMap.mp hc
  split at hcb
  · next hkept =>
    rw [List.mem_singleton] at hcb
    exact hcb ▸ hkeep b hb hkept
  · exact hescape c (isEscapeChar_of_mem_escape hcb)

theorem encodeText_eq_self {l : List Char}
    (h : ∀ c ∈ l, c.toNat < 0x80 ∧ keep (octet c) = true) : encodeText keep l = l := by
  rw [encodeText, encode_of_ascii fun c hc => (h c hc).1, encode, List.flatMap_map]
  induction l with
  | nil => rfl
  | cons c l ih =>
    obtain ⟨hascii, hkept⟩ := h c List.mem_cons_self
    rw [List.flatMap_cons, ih fun d hd => h d (List.mem_cons_of_mem c hd), if_pos hkept,
      Utf8.char_octet hascii, List.singleton_append]

theorem encodeText_append (l m : List Char) :
    encodeText keep (l ++ m) = encodeText keep l ++ encodeText keep m := by
  rw [encodeText, encodeText, encodeText, encode, encode, encode, List.flatMap_append,
    List.flatMap_append]

theorem encodeText_cons {c : Char} (hascii : c.toNat < 0x80) (hkept : keep (octet c) = true)
    (l : List Char) : encodeText keep (c :: l) = c :: encodeText keep l := by
  have hc : encodeText keep [c] = [c] :=
    encodeText_eq_self (List.forall_mem_singleton.mpr ⟨hascii, hkept⟩)
  rw [← List.singleton_append, encodeText_append, hc, List.singleton_append]

/-! ## Reading what was written -/

theorem octet_char (b : UInt8) : octet (Char.ofNat b.toNat) = b := by
  refine Utf8.forall_octet b ?_
  decide +kernel

/-- **Octets come back** from a writer that escapes the percent sign. -/
theorem decode_encode (hsign : keep sign = false) (l : Bytes) :
    decode ((encode keep l).map octet) = l := by
  induction l with
  | nil => rfl
  | cons b l ih =>
    have hcons : encode keep (b :: l) =
        (if keep b then [Char.ofNat b.toNat] else escape b) ++ encode keep l := rfl
    rw [hcons, List.map_append]
    split
    · next hkept =>
      -- an octet that is kept is not the sign
      have hne : b ≠ sign := by
        rintro rfl
        rw [hsign] at hkept
        cases hkept
      rw [List.map_singleton, octet_char, List.singleton_append, decode_cons_of_ne_sign hne, ih]
    · rw [decode_escape_append, ih]

theorem encodeText_injective (hsign : keep sign = false) {l m : List Char}
    (h : encodeText keep l = encodeText keep m) : l = m := by
  apply Utf8.encode_injective
  rw [← decode_encode hsign (l.flatMap String.utf8EncodeChar),
    ← decode_encode hsign (m.flatMap String.utf8EncodeChar)]
  exact congrArg (fun written => decode (written.map octet)) h

end LogVault.Percent
