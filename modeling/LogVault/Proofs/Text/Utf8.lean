import LogVault.Text.Utf8

/-!
# LogVault.Proofs.Text.Utf8 — reading what was encoded

The octets of a text split into exactly its characters, whatever follows them
(`items_encode_append`). So the lossy reader gives the text back (`decodeLossy_encode`,
`textLossy_bytes`), and no two texts have the same octets (`encode_injective`). A text of ASCII has
one octet for each character.

The other way round, octets that split into characters only are those of a text
(`flaw?_eq_none_iff`): each character at the front is made of its own octets.
-/

namespace LogVault.Utf8

/-! ## The classes of octets, by their values -/

section Classes

variable {a b : UInt8}

theorem isTail_eq_true_iff : isTail b = true ↔ 0x80 ≤ b.toNat ∧ b.toNat ≤ 0xBF := by
  simp [isTail, UInt8.le_iff_toNat_le]

theorem following_eq_zero (h : a.toNat < 0x80) : following a = some 0 := by
  have h₀ : a < 0x80 := by simpa [UInt8.lt_iff_toNat_lt] using h
  rw [following, if_pos h₀]

theorem following_eq_one (h : 0xC2 ≤ a.toNat ∧ a.toNat ≤ 0xDF) : following a = some 1 := by
  simp only [following, UInt8.lt_iff_toNat_lt, UInt8.le_iff_toNat_le, UInt8.reduceToNat]
  rw [if_neg (by omega), if_pos h]

theorem following_eq_two (h : 0xE0 ≤ a.toNat ∧ a.toNat ≤ 0xEF) : following a = some 2 := by
  simp only [following, UInt8.lt_iff_toNat_lt, UInt8.le_iff_toNat_le, UInt8.reduceToNat]
  rw [if_neg (by omega), if_neg (by omega), if_pos h]

theorem following_eq_three (h : 0xF0 ≤ a.toNat ∧ a.toNat ≤ 0xF4) : following a = some 3 := by
  simp only [following, UInt8.lt_iff_toNat_lt, UInt8.le_iff_toNat_le, UInt8.reduceToNat]
  rw [if_neg (by omega), if_neg (by omega), if_neg (by omega), if_pos h]

/-- A tail may stand second unless the first octet narrows its range. -/
theorem maySecond_of_isTail (htail : isTail b = true) (hE0 : a.toNat = 0xE0 → 0xA0 ≤ b.toNat)
    (hED : a.toNat = 0xED → b.toNat ≤ 0x9F) (hF0 : a.toNat = 0xF0 → 0x90 ≤ b.toNat)
    (hF4 : a.toNat = 0xF4 → b.toNat ≤ 0x8F) : maySecond a b = true := by
  have hrange := isTail_eq_true_iff.mp htail
  simp only [maySecond, ← UInt8.toNat_inj, UInt8.le_iff_toNat_le, UInt8.reduceToNat]
  split
  · next h => simpa using ⟨hE0 h, hrange.2⟩
  · split
    · next h => simpa using ⟨hrange.1, hED h⟩
    · split
      · next h => simpa using ⟨hF0 h, hrange.2⟩
      · split
        · next h => simpa using ⟨hrange.1, hF4 h⟩
        · exact htail

end Classes

/-! ## One character at the front -/

section Front

variable {a b c d : UInt8} {rest : Bytes}

theorem front_of_one (h : following a = some 0) :
    front a rest = (.char (Char.ofNat a.toNat), rest) := by
  simp only [front, h]

theorem front_of_two (h : following a = some 1) (hb : maySecond a b = true) :
    front a (b :: rest) = (.char (join2 a b), rest) := by
  simp only [front, h, hb, if_true]

theorem front_of_three (h : following a = some 2) (hb : maySecond a b = true)
    (hc : isTail c = true) : front a (b :: c :: rest) = (.char (join3 a b c), rest) := by
  simp [front, h, hb, hc]

theorem front_of_four (h : following a = some 3) (hb : maySecond a b = true)
    (hc : isTail c = true) (hd : isTail d = true) :
    front a (b :: c :: d :: rest) = (.char (join4 a b c d), rest) := by
  simp [front, h, hb, hc, hd]

end Front

theorem items_cons (a : UInt8) (rest : Bytes) :
    items (a :: rest) = (front a rest).1 :: items (front a rest).2 := by
  rw [items]

/-- What holds of each of the 256 octets holds of an octet. -/
@[elab_as_elim]
theorem forall_octet {P : UInt8 → Prop} (b : UInt8) (h : ∀ n, n < 256 → P (UInt8.ofNat n)) : P b :=
  UInt8.ofNat_toNat (x := b) ▸ h b.toNat b.toNat_lt

/-- The value of an octet that is given by a number below 256. -/
theorem toNat_ofNat_of_lt {n : Nat} (h : n < 256) : (UInt8.ofNat n).toNat = n := by
  rw [UInt8.toNat_ofNat', Nat.mod_eq_of_lt h]

theorem isTail_ofNat {n : Nat} (h₁ : 0x80 ≤ n) (h₂ : n ≤ 0xBF) :
    isTail (UInt8.ofNat n) = true := by
  rw [isTail_eq_true_iff, toNat_ofNat_of_lt (by omega)]
  exact ⟨h₁, h₂⟩

/-! ## One encoded character -/

section Encoded

variable {c : Char} {rest : Bytes}

theorem items_two (hleast : 0x80 ≤ c.toNat) (hgreatest : c.toNat ≤ 0x7FF) :
    items (UInt8.ofNat (c.toNat / 64 % 0x20 + 0xC0) ::
        UInt8.ofNat (c.toNat % 0x40 + 0x80) :: rest) =
      .char c :: items rest := by
  have ha := toNat_ofNat_of_lt (n := c.toNat / 64 % 0x20 + 0xC0) (by omega)
  have hb := toNat_ofNat_of_lt (n := c.toNat % 0x40 + 0x80) (by omega)
  have htail := isTail_ofNat (n := c.toNat % 0x40 + 0x80) (by omega) (by omega)
  have hsecond := maySecond_of_isTail (a := UInt8.ofNat (c.toNat / 64 % 0x20 + 0xC0)) htail
    (by omega) (by omega) (by omega) (by omega)
  have hjoin : join2 (UInt8.ofNat (c.toNat / 64 % 0x20 + 0xC0))
      (UInt8.ofNat (c.toNat % 0x40 + 0x80)) = c := by
    rw [join2, ha, hb, show (c.toNat / 64 % 0x20 + 0xC0) % 32 * 64 +
      (c.toNat % 0x40 + 0x80) % 64 = c.toNat by omega, Char.ofNat_toNat]
  rw [items_cons, front_of_two (following_eq_one (by omega)) hsecond, hjoin]

theorem items_three (hleast : 0x800 ≤ c.toNat) (hgreatest : c.toNat ≤ 0xFFFF) :
    items (UInt8.ofNat (c.toNat / 4096 % 0x10 + 0xE0) ::
        UInt8.ofNat (c.toNat / 64 % 0x40 + 0x80) :: UInt8.ofNat (c.toNat % 0x40 + 0x80) :: rest) =
      .char c :: items rest := by
  have hvalid : c.toNat < 0xD800 ∨ (0xDFFF < c.toNat ∧ c.toNat < 0x110000) := c.valid
  have ha := toNat_ofNat_of_lt (n := c.toNat / 4096 % 0x10 + 0xE0) (by omega)
  have hb := toNat_ofNat_of_lt (n := c.toNat / 64 % 0x40 + 0x80) (by omega)
  have hc := toNat_ofNat_of_lt (n := c.toNat % 0x40 + 0x80) (by omega)
  have htail := isTail_ofNat (n := c.toNat / 64 % 0x40 + 0x80) (by omega) (by omega)
  have htail' := isTail_ofNat (n := c.toNat % 0x40 + 0x80) (by omega) (by omega)
  -- below U+0800 nothing has three octets, and the surrogates are no characters
  have hsecond := maySecond_of_isTail (a := UInt8.ofNat (c.toNat / 4096 % 0x10 + 0xE0)) htail
    (by omega) (by omega) (by omega) (by omega)
  have hjoin : join3 (UInt8.ofNat (c.toNat / 4096 % 0x10 + 0xE0))
      (UInt8.ofNat (c.toNat / 64 % 0x40 + 0x80)) (UInt8.ofNat (c.toNat % 0x40 + 0x80)) = c := by
    rw [join3, ha, hb, hc, show (c.toNat / 4096 % 0x10 + 0xE0) % 16 * 4096 +
      (c.toNat / 64 % 0x40 + 0x80) % 64 * 64 + (c.toNat % 0x40 + 0x80) % 64 = c.toNat by omega,
      Char.ofNat_toNat]
  rw [items_cons, front_of_three (following_eq_two (by omega)) hsecond htail', hjoin]

theorem items_four (hleast : 0x10000 ≤ c.toNat) :
    items (UInt8.ofNat (c.toNat / 262144 % 0x08 + 0xF0) ::
        UInt8.ofNat (c.toNat / 4096 % 0x40 + 0x80) :: UInt8.ofNat (c.toNat / 64 % 0x40 + 0x80) ::
        UInt8.ofNat (c.toNat % 0x40 + 0x80) :: rest) =
      .char c :: items rest := by
  have hvalid : c.toNat < 0xD800 ∨ (0xDFFF < c.toNat ∧ c.toNat < 0x110000) := c.valid
  have ha := toNat_ofNat_of_lt (n := c.toNat / 262144 % 0x08 + 0xF0) (by omega)
  have hb := toNat_ofNat_of_lt (n := c.toNat / 4096 % 0x40 + 0x80) (by omega)
  have hc := toNat_ofNat_of_lt (n := c.toNat / 64 % 0x40 + 0x80) (by omega)
  have hd := toNat_ofNat_of_lt (n := c.toNat % 0x40 + 0x80) (by omega)
  have htail := isTail_ofNat (n := c.toNat / 4096 % 0x40 + 0x80) (by omega) (by omega)
  have htail' := isTail_ofNat (n := c.toNat / 64 % 0x40 + 0x80) (by omega) (by omega)
  have htail'' := isTail_ofNat (n := c.toNat % 0x40 + 0x80) (by omega) (by omega)
  -- below U+10000 nothing has four octets, and U+10FFFF is the last character
  have hsecond := maySecond_of_isTail (a := UInt8.ofNat (c.toNat / 262144 % 0x08 + 0xF0))
    htail (by omega) (by omega) (by omega) (by omega)
  have hjoin : join4 (UInt8.ofNat (c.toNat / 262144 % 0x08 + 0xF0))
      (UInt8.ofNat (c.toNat / 4096 % 0x40 + 0x80)) (UInt8.ofNat (c.toNat / 64 % 0x40 + 0x80))
      (UInt8.ofNat (c.toNat % 0x40 + 0x80)) = c := by
    rw [join4, ha, hb, hc, hd, show (c.toNat / 262144 % 0x08 + 0xF0) % 8 * 262144 +
      (c.toNat / 4096 % 0x40 + 0x80) % 64 * 4096 + (c.toNat / 64 % 0x40 + 0x80) % 64 * 64 +
      (c.toNat % 0x40 + 0x80) % 64 = c.toNat by omega, Char.ofNat_toNat]
  rw [items_cons, front_of_four (following_eq_three (by omega)) hsecond htail' htail'', hjoin]

end Encoded

/-- **An encoded character is one piece.** -/
theorem items_encodeChar_append (c : Char) (rest : Bytes) :
    items (String.utf8EncodeChar c ++ rest) = .char c :: items rest := by
  have hv : c.val.toNat = c.toNat := rfl
  unfold String.utf8EncodeChar
  simp only [hv]
  split
  · next h =>
    have ha := toNat_ofNat_of_lt (n := c.toNat) (by omega)
    rw [List.singleton_append, items_cons, front_of_one (following_eq_zero (by omega)), ha,
      Char.ofNat_toNat]
  · next h₁ =>
    split
    · next h₂ => exact items_two (by omega) h₂
    · next h₂ =>
      split
      · next h₃ => exact items_three (by omega) h₃
      · next h₃ => exact items_four (by omega)

/-! ## Whole texts -/

theorem items_encode_append (l : List Char) (rest : Bytes) :
    items (l.flatMap String.utf8EncodeChar ++ rest) = l.map Item.char ++ items rest := by
  induction l with
  | nil => rfl
  | cons c l ih =>
    rw [List.flatMap_cons, List.append_assoc, items_encodeChar_append, ih, List.map_cons,
      List.cons_append]

theorem items_encode (l : List Char) :
    items (l.flatMap String.utf8EncodeChar) = l.map Item.char := by
  simpa [items] using items_encode_append l []

/-- **The strict reader takes every text.** -/
theorem decode?_encode (l : List Char) : decode? (l.flatMap String.utf8EncodeChar) = some l := by
  rw [decode?, items_encode]
  induction l with
  | nil => rfl
  | cons c l ih => simp only [List.map_cons, List.mapM_cons, Item.char?, ih, Option.bind_eq_bind,
      Option.bind_some, Option.pure_def]

/-- **The lossy reader loses nothing of a text.** -/
theorem decodeLossy_encode (l : List Char) : decodeLossy (l.flatMap String.utf8EncodeChar) = l := by
  rw [decodeLossy, items_encode, List.map_map]
  exact List.map_id' l

theorem textLossy_bytes (s : String) : textLossy (Text.bytes s) = s := by
  rw [textLossy, Text.bytes, decodeLossy_encode, String.ofList_toList]

/-- No two texts have the same octets. -/
theorem encode_injective {l m : List Char}
    (h : l.flatMap String.utf8EncodeChar = m.flatMap String.utf8EncodeChar) : l = m := by
  rw [← decodeLossy_encode l, h, decodeLossy_encode]

/-! ## ASCII -/

/-- The octet of a character of ASCII. -/
def octet (c : Char) : UInt8 := UInt8.ofNat c.toNat

theorem toNat_octet {c : Char} (h : c.toNat < 0x80) : (octet c).toNat = c.toNat :=
  toNat_ofNat_of_lt (by omega)

theorem encodeChar_of_ascii {c : Char} (h : c.toNat < 0x80) :
    String.utf8EncodeChar c = [octet c] := by
  have hv : c.val.toNat = c.toNat := rfl
  unfold String.utf8EncodeChar
  simp only [hv]
  rw [if_pos (by omega), octet]

theorem encode_of_ascii {l : List Char} (h : ∀ c ∈ l, c.toNat < 0x80) :
    l.flatMap String.utf8EncodeChar = l.map octet := by
  induction l with
  | nil => rfl
  | cons c l ih =>
    rw [List.flatMap_cons, encodeChar_of_ascii (h c List.mem_cons_self),
      ih fun d hd => h d (List.mem_cons_of_mem c hd), List.map_cons, List.singleton_append]

theorem bytes_ofList_of_ascii {l : List Char} (h : ∀ c ∈ l, c.toNat < 0x80) :
    Text.bytes (String.ofList l) = l.map octet := by
  rw [Text.bytes, String.toList_ofList, encode_of_ascii h]

@[simp] theorem char_octet {c : Char} (h : c.toNat < 0x80) : Char.ofNat (octet c).toNat = c := by
  rw [toNat_octet h, Char.ofNat_toNat]

/-- Among the octets of a text, those of ASCII are its characters of ASCII. -/
theorem char_mem_of_octet_mem {l : List Char} {b : UInt8} (hb : b.toNat < 0x80)
    (h : b ∈ l.flatMap String.utf8EncodeChar) : Char.ofNat b.toNat ∈ l := by
  obtain ⟨c, hc, hbc⟩ := List.mem_flatMap.mp h
  have hv : c.val.toNat = c.toNat := rfl
  have hvalid : c.toNat < 0xD800 ∨ (0xDFFF < c.toNat ∧ c.toNat < 0x110000) := c.valid
  by_cases hascii : c.toNat < 0x80
  · rw [encodeChar_of_ascii hascii, List.mem_singleton] at hbc
    rw [hbc, char_octet hascii]
    exact hc
  · -- an octet of a longer character has its highest bit set
    exfalso
    unfold String.utf8EncodeChar at hbc
    simp only [hv] at hbc
    rw [if_neg (by omega)] at hbc
    split at hbc
    · simp only [List.mem_cons, List.not_mem_nil, or_false] at hbc
      rcases hbc with rfl | rfl <;> rw [toNat_ofNat_of_lt (by omega)] at hb <;> omega
    · split at hbc
      · simp only [List.mem_cons, List.not_mem_nil, or_false] at hbc
        rcases hbc with rfl | rfl | rfl <;> rw [toNat_ofNat_of_lt (by omega)] at hb <;> omega
      · simp only [List.mem_cons, List.not_mem_nil, or_false] at hbc
        rcases hbc with rfl | rfl | rfl | rfl <;> rw [toNat_ofNat_of_lt (by omega)] at hb <;> omega

/-! ## What is read was encoded -/

section Inverse

variable {a b c d : UInt8}

theorem of_following {n : Nat} (h : following a = some n) :
    (n = 0 ∧ a.toNat < 0x80) ∨ (n = 1 ∧ 0xC2 ≤ a.toNat ∧ a.toNat ≤ 0xDF) ∨
      (n = 2 ∧ 0xE0 ≤ a.toNat ∧ a.toNat ≤ 0xEF) ∨ (n = 3 ∧ 0xF0 ≤ a.toNat ∧ a.toNat ≤ 0xF4) := by
  simp only [following, UInt8.lt_iff_toNat_lt, UInt8.le_iff_toNat_le, UInt8.reduceToNat] at h
  split at h
  · cases h
    omega
  · split at h
    · cases h
      omega
    · split at h
      · cases h
        omega
      · split at h
        · cases h
          omega
        · cases h

/-- What may stand second is a tail, in the range that the first octet leaves. -/
theorem of_maySecond (h : maySecond a b = true) :
    (0x80 ≤ b.toNat ∧ b.toNat ≤ 0xBF) ∧ (a.toNat = 0xE0 → 0xA0 ≤ b.toNat) ∧
      (a.toNat = 0xED → b.toNat ≤ 0x9F) ∧ (a.toNat = 0xF0 → 0x90 ≤ b.toNat) ∧
      (a.toNat = 0xF4 → b.toNat ≤ 0x8F) := by
  simp only [maySecond, isTail, ← UInt8.toNat_inj, UInt8.le_iff_toNat_le, UInt8.reduceToNat] at h
  repeat' split at h
  all_goals
    simp only [Bool.and_eq_true, decide_eq_true_eq] at h
    omega

/-- The value of a character that is given by a number outside the surrogates. -/
theorem toNat_char_ofNat {n : Nat} (h : n < 0xD800 ∨ (0xDFFF < n ∧ n < 0x110000)) :
    (Char.ofNat n).toNat = n := by
  have hvalid : n.isValidChar := h
  rw [Char.ofNat, dif_pos hvalid]
  rfl

theorem ofNat_eq_of_toNat {n : Nat} (h : a.toNat = n) : UInt8.ofNat n = a := by
  rw [← h, UInt8.ofNat_toNat]

/-- Two octets that may stand together are those of their character. -/
theorem encodeChar_join2 (ha : 0xC2 ≤ a.toNat ∧ a.toNat ≤ 0xDF)
    (hb : 0x80 ≤ b.toNat ∧ b.toNat ≤ 0xBF) : String.utf8EncodeChar (join2 a b) = [a, b] := by
  have hvalue : (join2 a b).val.toNat = a.toNat % 32 * 64 + b.toNat % 64 :=
    toNat_char_ofNat (by omega)
  unfold String.utf8EncodeChar
  simp only [hvalue]
  rw [if_neg (by omega), if_pos (by omega), ofNat_eq_of_toNat (a := a) (by omega),
    ofNat_eq_of_toNat (a := b) (by omega)]

theorem encodeChar_join3 (ha : 0xE0 ≤ a.toNat ∧ a.toNat ≤ 0xEF) (hb : maySecond a b = true)
    (hc : isTail c = true) : String.utf8EncodeChar (join3 a b c) = [a, b, c] := by
  obtain ⟨htail, hE0, hED, -, -⟩ := of_maySecond hb
  have hlast := isTail_eq_true_iff.mp hc
  have hvalue : (join3 a b c).val.toNat =
      a.toNat % 16 * 4096 + b.toNat % 64 * 64 + c.toNat % 64 := toNat_char_ofNat (by omega)
  unfold String.utf8EncodeChar
  simp only [hvalue]
  rw [if_neg (by omega), if_neg (by omega), if_pos (by omega),
    ofNat_eq_of_toNat (a := a) (by omega), ofNat_eq_of_toNat (a := b) (by omega),
    ofNat_eq_of_toNat (a := c) (by omega)]

theorem encodeChar_join4 (ha : 0xF0 ≤ a.toNat ∧ a.toNat ≤ 0xF4) (hb : maySecond a b = true)
    (hc : isTail c = true) (hd : isTail d = true) :
    String.utf8EncodeChar (join4 a b c d) = [a, b, c, d] := by
  obtain ⟨htail, -, -, hF0, hF4⟩ := of_maySecond hb
  have hthird := isTail_eq_true_iff.mp hc
  have hlast := isTail_eq_true_iff.mp hd
  have hvalue : (join4 a b c d).val.toNat = a.toNat % 8 * 262144 + b.toNat % 64 * 4096 +
      c.toNat % 64 * 64 + d.toNat % 64 := toNat_char_ofNat (by omega)
  unfold String.utf8EncodeChar
  simp only [hvalue]
  rw [if_neg (by omega), if_neg (by omega), if_neg (by omega),
    ofNat_eq_of_toNat (a := a) (by omega), ofNat_eq_of_toNat (a := b) (by omega),
    ofNat_eq_of_toNat (a := c) (by omega), ofNat_eq_of_toNat (a := d) (by omega)]

/-- **A character at the front** is made of its own octets. -/
theorem append_of_front {rest left : Bytes} {character : Char}
    (h : front a rest = (.char character, left)) :
    a :: rest = String.utf8EncodeChar character ++ left := by
  -- only where no octet is missing or out of range is there a character
  fun_cases front a rest with
  | case2 =>
    rename_i hfollowing
    rw [front_of_one hfollowing] at h
    cases h
    have ha : a.toNat < 0x80 := by
      have hrange := of_following hfollowing
      omega
    have hvalue : (Char.ofNat a.toNat).toNat = a.toNat := toNat_char_ofNat (by omega)
    rw [encodeChar_of_ascii (by omega), octet, hvalue, UInt8.ofNat_toNat, List.singleton_append]
  | case4 b rest hb _ hfollowing =>
    rw [front_of_two hfollowing hb] at h
    cases h
    have ha : 0xC2 ≤ a.toNat ∧ a.toNat ≤ 0xDF := by
      have hrange := of_following hfollowing
      omega
    rw [encodeChar_join2 ha (of_maySecond hb).1]
    rfl
  | case6 b hb c rest hc _ hfollowing _ =>
    rw [front_of_three hfollowing hb hc] at h
    cases h
    have ha : 0xE0 ≤ a.toNat ∧ a.toNat ≤ 0xEF := by
      have hrange := of_following hfollowing
      omega
    rw [encodeChar_join3 ha hb hc]
    rfl
  | case8 n b hpositive hfollowing hb hone c hc htwo d rest hd =>
    have hrange := of_following hfollowing
    have hzero : n ≠ 0 := hpositive
    obtain ⟨rfl, ha⟩ : n = 3 ∧ 0xF0 ≤ a.toNat ∧ a.toNat ≤ 0xF4 := by omega
    rw [front_of_four hfollowing hb hc hd] at h
    cases h
    rw [encodeChar_join4 ha hb hc hd]
    rfl
  | _ => simp_all [front]

end Inverse

/-- **What splits into characters** is their encoding. -/
theorem eq_encode_of_items {l : Bytes} {chars : List Char} (h : items l = chars.map Item.char) :
    l = chars.flatMap String.utf8EncodeChar := by
  induction chars generalizing l with
  | nil =>
    cases l with
    | nil => rfl
    | cons a rest =>
      rw [items_cons] at h
      cases h
  | cons c chars ih =>
    cases l with
    | nil =>
      rw [items] at h
      cases h
    | cons a rest =>
      rw [items_cons, List.map_cons, List.cons.injEq] at h
      rw [List.flatMap_cons, ← ih h.2]
      exact append_of_front (Prod.ext h.1 rfl)

theorem flawFrom_eq_none_iff {pieces : List Item} {index : Nat} :
    flawFrom index pieces = none ↔ ∃ chars : List Char, pieces = chars.map Item.char := by
  constructor
  · intro h
    induction pieces generalizing index with
    | nil => exact ⟨[], rfl⟩
    | cons piece rest ih =>
      cases piece with
      | char c =>
        obtain ⟨chars, rfl⟩ := ih h
        exact ⟨c :: chars, rfl⟩
      | broken => cases h
      | cut => cases h
  · rintro ⟨chars, rfl⟩
    induction chars generalizing index with
    | nil => rfl
    | cons c chars ih => exact ih

/-- **Octets without a flaw** are those of a text. -/
theorem flaw?_eq_none_iff {l : Bytes} : flaw? l = none ↔ ∃ s : String, l = Text.bytes s := by
  rw [flaw?, flawFrom_eq_none_iff]
  constructor
  · rintro ⟨chars, h⟩
    refine ⟨String.ofList chars, ?_⟩
    rw [Text.bytes, String.toList_ofList]
    exact eq_encode_of_items h
  · rintro ⟨s, rfl⟩
    exact ⟨s.toList, items_encode s.toList⟩

end LogVault.Utf8
