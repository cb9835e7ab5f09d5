import LogVault.Proofs.Text.Cut
import LogVault.Proofs.Text.Percent
import LogVault.Text.Form
import Mathlib.Algebra.GroupWithZero.Nat
import Mathlib.Data.List.Basic

/-!
# LogVault.Proofs.Text.Form — a query string gives its pairs back

Writing leaves only a few characters of ASCII in a name or a value, neither `&` nor `=` among them,
so both cuts of the reader fall where the writer put the marks. A plus sign in a text is escaped, so
every plus sign that is read was a space. Hence `read_text`: reading what was written gives the same
pairs.
-/

namespace LogVault.Form

open Utf8 (forall_octet octet toNat_octet)

/-! ## The characters of a written query -/

/-- A character of a written name or value: an octet that is kept, a plus sign or an escape's. -/
def isWritten (c : Char) : Bool :=
  c.toNat < 0x80 && (keeps (octet c) || c == '+' || c == '%')

theorem isWritten_of_mem_encodeByte {b : UInt8} {c : Char} (h : c ∈ encodeByte b) :
    isWritten c = true := by
  have hall : (encodeByte b).all isWritten = true := by
    refine forall_octet b ?_
    decide +kernel
  exact List.all_eq_true.mp hall c h

theorem isWritten_of_mem_encode {s : String} {c : Char} (h : c ∈ encode s) :
    isWritten c = true := by
  obtain ⟨b, -, hc⟩ := List.mem_flatMap.mp h
  exact isWritten_of_mem_encodeByte hc

/-- A character of a written query. -/
def isQueryChar (c : Char) : Bool := isWritten c || c == '&' || c == '='

theorem isQueryChar_of_mem_encodePair {p : String × String} {c : Char} (h : c ∈ encodePair p) :
    isQueryChar c = true := by
  simp only [encodePair, List.mem_append, List.mem_cons] at h
  rcases h with h | rfl | h
  · rw [isQueryChar, isWritten_of_mem_encode h, Bool.true_or, Bool.true_or]
  · rfl
  · rw [isQueryChar, isWritten_of_mem_encode h, Bool.true_or, Bool.true_or]

theorem write_singleton (p : String × String) : write [p] = encodePair p := by
  simp [write]

theorem write_cons_cons (p q : String × String) (pairs : List (String × String)) :
    write (p :: q :: pairs) = encodePair p ++ '&' :: write (q :: pairs) := by
  simp [write, List.intercalate_cons_of_ne_nil]

theorem write_concat {pairs : List (String × String)} (h : pairs ≠ []) (p : String × String) :
    write (pairs ++ [p]) = write pairs ++ '&' :: encodePair p := by
  induction pairs with
  | nil => exact absurd rfl h
  | cons first rest ih =>
    cases rest with
    | nil => rw [List.singleton_append, write_cons_cons, write_singleton, write_singleton]
    | cons second rest =>
      rw [List.cons_append, List.cons_append, write_cons_cons, write_cons_cons,
        ← List.cons_append, ih (List.cons_ne_nil _ _), List.append_assoc, List.cons_append]

theorem isQueryChar_of_mem_write {pairs : List (String × String)} {c : Char} (h : c ∈ write pairs) :
    isQueryChar c = true := by
  induction pairs with
  | nil => cases h
  | cons p pairs ih =>
    cases pairs with
    | nil => exact isQueryChar_of_mem_encodePair (write_singleton p ▸ h)
    | cons q pairs =>
      rw [write_cons_cons, List.mem_append, List.mem_cons] at h
      rcases h with h | rfl | h
      · exact isQueryChar_of_mem_encodePair h
      · rfl
      · exact ih h

theorem toNat_lt_of_isWritten {c : Char} (h : isWritten c = true) : c.toNat < 0x80 := by
  simp only [isWritten, Bool.and_eq_true, decide_eq_true_eq] at h
  exact h.1

theorem toNat_lt_of_isQueryChar {c : Char} (h : isQueryChar c = true) : c.toNat < 0x80 := by
  simp only [isQueryChar, Bool.or_eq_true, beq_iff_eq] at h
  rcases h with (h | rfl) | rfl
  · exact toNat_lt_of_isWritten h
  · decide
  · decide

/-- A name or a value that needs no escapes stands for itself. -/
theorem encode_of_keeps {s : String}
    (h : ∀ c ∈ s.toList, c.toNat < 0x80 ∧ keeps (octet c) = true) : encode s = s.toList := by
  have hchar : ∀ c ∈ s.toList, encodeByte (octet c) = [c] := by
    intro c hc
    obtain ⟨hascii, hkeeps⟩ := h c hc
    have hspace : octet c ≠ 0x20 := fun heq => by
      rw [heq] at hkeeps
      exact absurd hkeeps (by decide)
    rw [encodeByte, if_neg hspace, if_pos hkeeps, Utf8.char_octet hascii]
  rw [encode, Text.bytes, Utf8.encode_of_ascii fun c hc => (h c hc).1, List.flatMap_map]
  calc s.toList.flatMap (fun c => encodeByte (octet c))
      = s.toList.flatMap (fun c => [c]) := List.flatMap_congr hchar
    _ = s.toList := List.flatMap_singleton' _

/-! ## The length of a written query -/

theorem length_encode_le (s : String) : (encode s).length ≤ 3 * (Text.bytes s).length := by
  have hbyte : ∀ b, (encodeByte b).length ≤ 3 := fun b => by
    unfold encodeByte
    split
    · exact Nat.le_of_ble_eq_true rfl
    · split
      · exact Nat.le_of_ble_eq_true rfl
      · exact Nat.le_refl 3
  rw [encode]
  induction Text.bytes s with
  | nil => exact Nat.zero_le _
  | cons b l ih =>
    have hb := hbyte b
    rw [List.flatMap_cons, List.length_append, List.length_cons]
    omega

/-- An octet takes three characters at most, and each pair two marks. -/
theorem length_write_le (pairs : List (String × String)) :
    (write pairs).length ≤
      (pairs.map fun p => 3 * (Text.bytes p.1).length + 3 * (Text.bytes p.2).length + 2).sum := by
  have hpair : ∀ p : String × String, (encodePair p).length + 1 ≤
      3 * (Text.bytes p.1).length + 3 * (Text.bytes p.2).length + 2 := fun p => by
    have hname := length_encode_le p.1
    have hvalue := length_encode_le p.2
    rw [encodePair, List.length_append, List.length_cons]
    omega
  induction pairs with
  | nil => exact Nat.zero_le _
  | cons p pairs ih =>
    have hp := hpair p
    rw [List.map_cons, List.sum_cons]
    cases pairs with
    | nil =>
      rw [write_singleton]
      omega
    | cons q pairs =>
      rw [write_cons_cons, List.length_append, List.length_cons]
      omega

/-! ## One name or value -/

/-- The octets of a name or a value, with plus signs for spaces. -/
def spaced (l : Bytes) : Bytes := l.map fun b => if b = 0x2B then 0x20 else b

theorem decode_eq_textLossy (l : Bytes) :
    decode l = Utf8.textLossy (Percent.decode (spaced l)) := rfl

theorem spaced_append (l m : Bytes) : spaced (l ++ m) = spaced l ++ spaced m := List.map_append

/-- No escape has a plus sign in it. -/
theorem spaced_escape (b : UInt8) :
    spaced ((Percent.escape b).map octet) = (Percent.escape b).map octet := by
  refine forall_octet b ?_
  decide +kernel

/-- An octet that is kept stands for itself. -/
theorem spaced_of_keeps {b : UInt8} :
    keeps b = true → spaced ([Char.ofNat b.toNat].map octet) = [b] ∧ b ≠ Percent.sign := by
  refine forall_octet b ?_
  decide +kernel

/-- **One octet comes back**, whatever follows it. -/
theorem decode_encodeByte_append (b : UInt8) (rest : Bytes) :
    Percent.decode (spaced ((encodeByte b).map octet ++ rest)) =
      b :: Percent.decode (spaced rest) := by
  rw [spaced_append]
  unfold encodeByte
  split
  · next hspace =>
    have hplus : spaced (['+'].map octet) = [0x20] := by decide
    rw [hplus, List.singleton_append, Percent.decode_cons_of_ne_sign (by decide), hspace]
  · split
    · next hkeeps =>
      obtain ⟨hspaced, hsign⟩ := spaced_of_keeps hkeeps
      rw [hspaced, List.singleton_append, Percent.decode_cons_of_ne_sign hsign]
    · rw [spaced_escape, Percent.decode_escape_append]

theorem decode_encodeBytes (l : Bytes) :
    Percent.decode (spaced ((l.flatMap encodeByte).map octet)) = l := by
  induction l with
  | nil => rfl
  | cons b l ih => rw [List.flatMap_cons, List.map_append, decode_encodeByte_append, ih]

/-- **A name or a value comes back.** -/
theorem decode_encode (s : String) : decode ((encode s).map octet) = s := by
  rw [decode_eq_textLossy, encode, decode_encodeBytes, Utf8.textLossy_bytes]

/-! ## Pairs -/

theorem octet_injective {c d : Char} (hc : c.toNat < 0x80) (hd : d.toNat < 0x80)
    (h : octet c = octet d) : c = d := by
  rw [← Utf8.char_octet hc, h, Utf8.char_octet hd]

/-- An octet that stands between names, values and pairs is in none of them. -/
theorem octet_not_mem_encode {s : String} (sep : Char) (hascii : sep.toNat < 0x80)
    (hsep : isWritten sep = false) : octet sep ∉ (encode s).map octet := by
  intro hmem
  obtain ⟨c, hc, hoctet⟩ := List.mem_map.mp hmem
  have hwritten := isWritten_of_mem_encode hc
  rw [octet_injective (toNat_lt_of_isWritten hwritten) hascii hoctet, hsep] at hwritten
  cases hwritten

theorem map_octet_encodePair (p : String × String) :
    (encodePair p).map octet = (encode p.1).map octet ++ 0x3D :: (encode p.2).map octet := by
  rw [encodePair, List.map_append, List.map_cons]
  rfl

/-- **A pair comes back.** -/
theorem decodePiece_encodePair (p : String × String) :
    decodePiece ((encodePair p).map octet) = p := by
  have hequals : (0x3D : UInt8) ∉ (encode p.1).map octet :=
    octet_not_mem_encode '=' (by decide) (by decide)
  rw [map_octet_encodePair, decodePiece, Text.takeWhile_bne_append_cons hequals,
    Text.dropWhile_bne_append_cons hequals, List.drop_succ_cons, List.drop_zero, decode_encode,
    decode_encode]

theorem ampersand_not_mem_encodePair (p : String × String) :
    (0x26 : UInt8) ∉ (encodePair p).map octet := by
  have hnames : ∀ s : String, (0x26 : UInt8) ∉ (encode s).map octet := fun s =>
    octet_not_mem_encode '&' (by decide) (by decide)
  rw [map_octet_encodePair, List.mem_append, List.mem_cons, not_or, not_or]
  exact ⟨hnames p.1, by decide, hnames p.2⟩

/-- **The cut between pairs** falls where the writer put the marks. -/
theorem splitOn_map_octet_write {pairs : List (String × String)} (h : pairs ≠ []) :
    ((write pairs).map octet).splitOn 0x26 = pairs.map fun p => (encodePair p).map octet := by
  induction pairs with
  | nil => exact absurd rfl h
  | cons p pairs ih =>
    -- a pair has no mark inside, so the first mark is the one behind it
    have hp := ampersand_not_mem_encodePair p
    cases pairs with
    | nil => rw [write_singleton, List.splitOn_eq_singleton hp, List.map_singleton]
    | cons q pairs =>
      rw [write_cons_cons, List.map_append, List.map_cons, show octet '&' = 0x26 from rfl,
        List.splitOn_append_cons_self_of_not_mem hp, ih (List.cons_ne_nil q pairs)]
      rfl

/-- No pair is written as nothing, so none is skipped. -/
theorem filter_encodePair (pairs : List (String × String)) :
    (pairs.map fun p => (encodePair p).map octet).filter (!·.isEmpty) =
      pairs.map fun p => (encodePair p).map octet := by
  rw [List.filter_eq_self]
  intro l hl
  obtain ⟨p, -, rfl⟩ := List.mem_map.mp hl
  rw [map_octet_encodePair]
  simp

/-- **Pairs come back** from a query that has any. -/
theorem read_text {pairs : List (String × String)} (h : pairs ≠ []) :
    read (String.ofList (write pairs)) = pairs := by
  have hascii : ∀ c ∈ write pairs, c.toNat < 0x80 := fun c hc =>
    toNat_lt_of_isQueryChar (isQueryChar_of_mem_write hc)
  rw [read, readBytes, Utf8.bytes_ofList_of_ascii hascii, splitOn_map_octet_write h,
    filter_encodePair, List.map_map]
  exact (List.map_congr_left fun p _ => decodePiece_encodePair p).trans (List.map_id pairs)

end LogVault.Form
