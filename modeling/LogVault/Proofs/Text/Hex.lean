import LogVault.Proofs.Text.Utf8
import LogVault.Text.Hex

/-!
# LogVault.Proofs.Text.Hex — what is written in digits

Every character that is written is one of the sixteen digits, so a text of digits has one octet for
each of them, and octets with the same digits are the same.

What is read are these digits, each in lower or in upper case, and nothing else
(`decode_eq_some_iff`): a character is one of the digits, up to case, just if it has the value of that
digit (`toLower_eq_iff`).
-/

namespace LogVault.Hex

theorem mem_digits_of_mem_encode {l : Bytes} {c : Char} (h : c ∈ encode l) : c ∈ digits := by
  have hdigit : ∀ n, digit n ∈ digits := by
    intro n
    rw [digit, List.getD_eq_getElem?_getD]
    cases hn : digits[n]? with
    | none => decide
    | some c => exact List.mem_of_getElem? hn
  obtain ⟨b, -, hc⟩ := List.mem_flatMap.mp h
  rcases List.mem_cons.mp hc with rfl | hc
  · exact hdigit _
  · rw [List.mem_singleton.mp hc]
    exact hdigit _

theorem encode_injective {l m : Bytes} (h : encode l = encode m) : l = m := by
  have hdecode := decode_encode l
  rw [h, decode_encode m] at hdecode
  exact (Option.some.inj hdecode).symm

/-! ## What can be read -/

/-- Only characters of ASCII have a value. -/
theorem toNat_lt_of_value? {c : Char} {n : Nat} (h : value? c = some n) : c.toNat < 0x80 := by
  have hle : ∀ {d : Char}, c ≤ d → c.toNat ≤ d.toNat := fun h => UInt32.le_iff_toNat_le.mp h
  unfold value? at h
  split at h
  · next hrange => exact Nat.lt_of_le_of_lt (hle hrange.2) (by decide)
  split at h
  · next hrange => exact Nat.lt_of_le_of_lt (hle hrange.2) (by decide)
  split at h
  · next hrange => exact Nat.lt_of_le_of_lt (hle hrange.2) (by decide)
  · cases h

/-- Outside ASCII there are no other cases. -/
theorem toLower_eq_self {c : Char} (h : 0x80 ≤ c.toNat) : c.toLower = c := by
  unfold Char.toLower
  rw [dif_neg]
  rintro ⟨-, hle⟩
  have hle : c.toNat ≤ 'Z'.toNat := UInt32.le_iff_toNat_le.mp hle
  exact absurd (Nat.le_trans h hle) (by decide)

/-- **A character with a value** is the digit of that value, in lower or in upper case. -/
theorem value?_eq_some_iff {c : Char} {n : Nat} :
    value? c = some n ↔ n < 16 ∧ c.toLower = digit n := by
  by_cases hascii : c.toNat < 0x80
  · have hto : ∀ k, k < 0x80 → ∀ n ∈ value? (Char.ofNat k),
        n < 16 ∧ (Char.ofNat k).toLower = digit n := by decide +kernel
    have hfrom : ∀ k, k < 0x80 → ∀ n, n < 16 → (Char.ofNat k).toLower = digit n →
        value? (Char.ofNat k) = some n := by decide +kernel
    rw [← Char.ofNat_toNat c]
    exact ⟨fun h => hto _ hascii n h, fun h => hfrom _ hascii n h.1 h.2⟩
  · refine iff_of_false (fun h => hascii (toNat_lt_of_value? h)) ?_
    rintro ⟨hn, hlower⟩
    rw [toLower_eq_self (Nat.le_of_not_lt hascii)] at hlower
    exact hascii (hlower ▸ toNat_lt_of_value? (value_digit n hn))

theorem exists_digit_of_mem_digits {d : Char} (h : d ∈ digits) : ∃ n, n < 16 ∧ d = digit n := by
  obtain ⟨n, hn, rfl⟩ := List.getElem_of_mem h
  exact ⟨n, hn, List.getElem_eq_getD '0'⟩

theorem value?_ne_none_of_mem_digits {d : Char} (h : d ∈ digits) : value? d ≠ none := by
  obtain ⟨n, hn, rfl⟩ := exists_digit_of_mem_digits h
  rw [value_digit n hn]
  exact Option.some_ne_none n

/-- A character is a digit in lower or in upper case just if it has the value of that digit. -/
theorem toLower_eq_iff {c d : Char} (h : d ∈ digits) : c.toLower = d ↔ value? c = value? d := by
  obtain ⟨n, hn, rfl⟩ := exists_digit_of_mem_digits h
  rw [value_digit n hn, value?_eq_some_iff]
  exact ⟨fun hlower => ⟨hn, hlower⟩, fun hvalue => hvalue.2⟩

theorem map_toLower_eq_iff {l m : List Char} (h : ∀ d ∈ m, d ∈ digits) :
    l.map Char.toLower = m ↔ l.map value? = m.map value? := by
  induction l generalizing m with
  | nil => cases m <;> simp
  | cons c l ih =>
    cases m with
    | nil => simp
    | cons d m =>
      rw [List.forall_mem_cons] at h
      simp only [List.map_cons, List.cons.injEq, toLower_eq_iff h.1, ih h.2]

theorem encode_cons (b : UInt8) (l : Bytes) :
    encode (b :: l) = digit (b.toNat / 16) :: digit (b.toNat % 16) :: encode l := rfl

/-- Digits that are written in capitals are the same digits. -/
theorem map_toLower_map_toUpper (l : Bytes) :
    ((encode l).map Char.toUpper).map Char.toLower = encode l := by
  have hall : digits.all (fun c => c.toUpper.toLower == c) = true := by decide
  have hdigits : ∀ c ∈ digits, c.toUpper.toLower = c := fun c hc =>
    beq_iff_eq.mp (List.all_eq_true.mp hall c hc)
  rw [List.map_map]
  exact (List.map_congr_left fun c hc => hdigits c (mem_digits_of_mem_encode hc)).trans
    (List.map_id _)

/-- What is read are the digits of the octets, in lower or in upper case. -/
theorem map_toLower_of_decode {l : List Char} {octets : Bytes} (h : decode l = some octets) :
    l.map Char.toLower = encode octets := by
  induction l using decode.induct generalizing octets with
  | case1 =>
    cases h
    rfl
  | case2 c => cases h
  | case3 high low rest m n hm hn ih =>
    rw [decode, hm, hn] at h
    obtain ⟨tail, htail, rfl⟩ := Option.map_eq_some_iff.mp h
    obtain ⟨hmlt, hmdigit⟩ := value?_eq_some_iff.mp hm
    obtain ⟨hnlt, hndigit⟩ := value?_eq_some_iff.mp hn
    have hvalue : (UInt8.ofNat (16 * m + n)).toNat = 16 * m + n :=
      Utf8.toNat_ofNat_of_lt (by omega)
    have hhigh : (16 * m + n) / 16 = m := by omega
    have hlow : (16 * m + n) % 16 = n := by omega
    rw [List.map_cons, List.map_cons, hmdigit, hndigit, ih htail, encode_cons, hvalue, hhigh, hlow]
  | case4 high low rest hnone =>
    rw [decode] at h
    split at h
    · next m n hm hn => exact absurd hn (hnone m n hm)
    · cases h

/-- **What is read as octets**: their digits, each in lower or in upper case. -/
theorem decode_eq_some_iff {l : List Char} {octets : Bytes} :
    decode l = some octets ↔ l.map Char.toLower = encode octets := by
  refine ⟨map_toLower_of_decode, fun h => ?_⟩
  induction octets generalizing l with
  | nil =>
    rw [List.map_eq_nil_iff.mp h]
    rfl
  | cons b octets ih =>
    have hb : b.toNat < 256 := b.toNat_lt
    obtain ⟨high, l, rfl, hhigh, h⟩ := List.map_eq_cons_iff.mp h
    obtain ⟨low, rest, rfl, hlow, hrest⟩ := List.map_eq_cons_iff.mp h
    have hm : value? high = some (b.toNat / 16) := value?_eq_some_iff.mpr ⟨by omega, hhigh⟩
    have hn : value? low = some (b.toNat % 16) := value?_eq_some_iff.mpr ⟨by omega, hlow⟩
    rw [decode, hm, hn]
    dsimp only
    rw [ih hrest, Option.map_some, Nat.div_add_mod, UInt8.ofNat_toNat]

/-! ## How many octets digits take -/

/-- Characters with values take one octet each. -/
theorem length_bytes_of_values {s : String} (h : ∀ c ∈ s.toList, value? c ≠ none) :
    (Text.bytes s).length = s.toList.length := by
  have hascii : ∀ c ∈ s.toList, c.toNat < 0x80 := fun c hc => by
    obtain ⟨n, hn⟩ := Option.ne_none_iff_exists'.mp (h c hc)
    exact toNat_lt_of_value? hn
  rw [Text.bytes, Utf8.encode_of_ascii hascii, List.length_map]

theorem length_bytes_of_digits {s : String} (h : ∀ c ∈ s.toList, c ∈ digits) :
    (Text.bytes s).length = s.toList.length :=
  length_bytes_of_values fun c hc => value?_ne_none_of_mem_digits (h c hc)

theorem length_bytes_text (l : Bytes) : (Text.bytes (text l)).length = 2 * l.length := by
  have htext : (text l).toList = encode l := String.toList_ofList
  rw [length_bytes_of_digits, htext, length_encode]
  rw [htext]
  exact fun c => mem_digits_of_mem_encode

end LogVault.Hex
