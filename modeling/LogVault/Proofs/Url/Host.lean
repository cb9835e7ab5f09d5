import LogVault.Proofs.Text.Percent
import LogVault.Proofs.Url.Ipv4
import LogVault.Proofs.Url.Ipv6
import LogVault.Url.Host

/-!
# LogVault.Proofs.Url.Host — hosts are read as they are written

A host that was read in a scheme of the web is normal (`normal_of_ofDomain`): a domain in lower case
that does not end in a number, or an address in range. What a normal host is written as is read as
the same host (`ofDomain_write`), so the form in which a URL keeps its host is settled by one
reading.
-/

namespace LogVault.Url

open Utf8 (forall_octet octet)

/-! ## Characters -/

/-- What holds of each of the 128 characters of ASCII holds of a character of ASCII. -/
@[elab_as_elim]
theorem forall_ascii {P : Char → Prop} {c : Char} (hc : c.toNat < 0x80)
    (h : ∀ n, n < 0x80 → P (Char.ofNat n)) : P c := by
  rw [← Char.ofNat_toNat c]
  exact h c.toNat hc

/-- A character that can stand before the query: printable, and not one that ends the stem. -/
def isStemChar (c : Char) : Bool := 0x20 < c.toNat && c.toNat < 0x7F && c != '?' && c != '#'

/-- A character that can stand in an authority. -/
def isAuthorityChar (c : Char) : Bool := isStemChar c && c != '/' && c != '\\'

/-- A character that can stand in a host. -/
def isHostChar (c : Char) : Bool := isAuthorityChar c && c != '@'

/-- A text of characters that can stand before the query. -/
def IsStem (l : List Char) : Prop := ∀ c ∈ l, isStemChar c = true

theorem isStem_nil : IsStem [] := fun _ hc => absurd hc List.not_mem_nil

theorem isStem_of_all {l : List Char} (h : l.all isStemChar = true) : IsStem l :=
  List.all_eq_true.mp h

theorem isStem_append {l m : List Char} (hl : IsStem l) (hm : IsStem m) : IsStem (l ++ m) :=
  fun c hc => (List.mem_append.mp hc).elim (hl c) (hm c)

theorem isStem_cons {c : Char} {l : List Char} (hc : isStemChar c = true) (hl : IsStem l) :
    IsStem (c :: l) :=
  List.forall_mem_cons.mpr ⟨hc, hl⟩

theorem toNat_lt_of_isStemChar {c : Char} (h : isStemChar c = true) : c.toNat < 0x80 := by
  simp only [isStemChar, Bool.and_eq_true, decide_eq_true_eq] at h
  omega

theorem isStemChar_of_isHostChar {c : Char} (h : isHostChar c = true) : isStemChar c = true := by
  simp only [isHostChar, isAuthorityChar, Bool.and_eq_true] at h
  exact h.1.1.1

theorem toNat_lt_of_isDigit {c : Char} (h : c.isDigit = true) : c.toNat < 0x80 := by
  simp only [Char.isDigit, Bool.and_eq_true, decide_eq_true_eq, UInt32.le_iff_toNat_le] at h
  exact Nat.lt_of_le_of_lt h.2 (by decide)

namespace Host

theorem toNat_lt_of_isNameChar {c : Char} (h : isNameChar c = true) : c.toNat < 0x80 := by
  simp only [isNameChar, Bool.and_eq_true, decide_eq_true_eq] at h
  omega

/-- A domain has no colon and no bracket, and nothing that ends a host. -/
theorem isHostChar_of_isNameChar {c : Char} (h : isNameChar c = true) :
    isHostChar c = true ∧ c ≠ ':' ∧ c ≠ '[' ∧ c ≠ ']' := by
  have hascii := toNat_lt_of_isNameChar h
  revert h
  refine forall_ascii hascii ?_
  decide +kernel

theorem isNameChar_of_isDigit {c : Char} (h : c.isDigit = true) : isNameChar c = true := by
  have hascii := toNat_lt_of_isDigit h
  revert h
  refine forall_ascii hascii ?_
  decide +kernel

theorem isNameChar_of_mem_write {a : Ipv4} {c : Char} (h : c ∈ a.write) : isNameChar c = true := by
  rcases Ipv4.mem_write h with h | rfl
  · exact isNameChar_of_isDigit h
  · decide

/-- An IPv6 address has no brackets of its own. -/
theorem isHostChar_of_mem_write {a : Ipv6} {c : Char} (h : c ∈ a.write) :
    isHostChar c = true ∧ c ≠ '[' ∧ c ≠ ']' := by
  rcases Ipv6.mem_write h with rfl | h
  · decide
  · obtain ⟨n, hn⟩ := Option.isSome_iff_exists.mp h
    have hascii := (Ipv4.lt_of_value? hn).2
    revert h
    clear hn
    refine forall_ascii hascii ?_
    decide +kernel

/-! ## Normal hosts -/

/-- **What a host of the web is once it was read.** -/
inductive Normal : Host → Prop where
  | domain {name : List Char} (chars : ∀ c ∈ name, isNameChar c = true)
      (valid : Domain.isValid name = true) (ne_nil : name ≠ [])
      (no_number : Ipv4.endsInNumber name = false) : Normal (.domain name)
  | ipv4 {a : Ipv4} (bound : a.value < 2 ^ 32) : Normal (.ipv4 a)
  | ipv6 {a : Ipv6} (address : a.IsAddress) : Normal (.ipv6 a)

theorem exists_of_bracketed {l : List Char} {h : Host} (hl : bracketed l = .ok h) :
    ∃ a : Ipv6, a.IsAddress ∧ h = .ipv6 a := by
  unfold bracketed at hl
  split at hl
  · split at hl
    · next a ha =>
      cases hl
      exact ⟨a, Ipv6.isAddress_of_ofText? ha, rfl⟩
    · cases hl
  · cases hl

/-- An address in brackets is read back, whatever the scheme. -/
theorem bracketed_write {a : Ipv6} (address : a.IsAddress) :
    bracketed (a.write ++ [']']) = .ok (.ipv6 a) := by
  have hlast : (a.write ++ [']']).getLast? = some ']' := List.getLast?_concat
  rw [bracketed, if_pos hlast, List.dropLast_concat, Ipv6.ofText?_write address]

theorem isHostChar_of_mem_ipv6 {a : Ipv6} {c : Char} (hc : c ∈ (Host.ipv6 a).write) :
    isHostChar c = true := by
  rw [write, List.mem_cons, List.mem_append, List.mem_singleton] at hc
  rcases hc with rfl | hc | rfl
  · decide
  · exact (isHostChar_of_mem_write hc).1
  · decide

theorem normal_of_bracketed {l : List Char} {h : Host} (hl : bracketed l = .ok h) : h.Normal := by
  obtain ⟨a, address, rfl⟩ := exists_of_bracketed hl
  exact .ipv6 address

/-- **What is read is normal.** -/
theorem normal_of_ofDomain {l : List Char} {h : Host} (hl : ofDomain l = .ok h) : h.Normal := by
  unfold ofDomain at hl
  split at hl
  · exact normal_of_bracketed hl
  · split at hl
    · cases hl
    · next name _ =>
      split at hl
      · cases hl
      · next hname =>
        rw [Bool.not_eq_true', Bool.not_eq_false, Bool.and_eq_true] at hname
        obtain ⟨hall, hvalid⟩ := hname
        have hchars : ∀ c ∈ name, isNameChar c = true := List.all_eq_true.mp hall
        split at hl
        · cases hl
        · next hempty =>
          have hne : name ≠ [] := fun hnil => hempty (List.isEmpty_iff.mpr hnil)
          split at hl
          · split at hl
            · next a ha =>
              cases hl
              exact .ipv4 (Ipv4.lt_of_ofHost? ha)
            · cases hl
          · next hnumber =>
            cases hl
            exact .domain hchars hvalid hne (Bool.eq_false_iff.mpr hnumber)

/-- A domain in another script is kept in its ASCII form. -/
example : ofDomain "B%C3%9Ccher.de".toList = .ok (.domain "xn--bcher-kva.de".toList) := by
  decide +kernel

theorem isEmpty_of_normal {h : Host} (hn : h.Normal) : h.isEmpty = false := by
  cases hn with
  | domain _ _ ne_nil _ => exact List.isEmpty_eq_false_iff.mpr ne_nil
  | ipv4 _ => rfl
  | ipv6 _ => rfl

theorem write_ne_nil {h : Host} (hn : h.Normal) : h.write ≠ [] := by
  cases hn with
  | domain _ _ ne_nil _ => exact ne_nil
  | @ipv4 a _ =>
    intro hnil
    have hnumber := Ipv4.endsInNumber_write a
    rw [show a.write = [] from hnil] at hnumber
    exact absurd hnumber (by decide)
  | ipv6 _ => exact List.cons_ne_nil _ _

theorem isHostChar_of_mem {h : Host} (hn : h.Normal) {c : Char} (hc : c ∈ h.write) :
    isHostChar c = true := by
  cases hn with
  | domain chars _ _ _ => exact (isHostChar_of_isNameChar (chars c hc)).1
  | ipv4 _ => exact (isHostChar_of_isNameChar (isNameChar_of_mem_write hc)).1
  | ipv6 _ => exact isHostChar_of_mem_ipv6 hc

/-! ## Reading a normal host -/

/-- A domain holds no sign of an escape. -/
theorem sign_ne_octet {c : Char} (h : isNameChar c = true) : Percent.sign ≠ octet c := by
  have hascii := toNat_lt_of_isNameChar h
  revert h
  refine forall_ascii hascii ?_
  decide +kernel

theorem octet_lt_of_isNameChar {c : Char} (h : isNameChar c = true) : octet c < 0x80 := by
  have hascii := toNat_lt_of_isNameChar h
  revert h
  refine forall_ascii hascii ?_
  decide +kernel

/-- **A domain in ASCII and in lower case** is its own form in ASCII. -/
theorem ofOctets?_name {name : List Char} (chars : ∀ c ∈ name, isNameChar c = true) :
    Domain.ofOctets? (name.map octet) = some name := by
  have hascii : (name.map octet).all (· < 0x80) = true := by
    rw [List.all_map, List.all_eq_true]
    exact fun c hc => decide_eq_true (octet_lt_of_isNameChar (chars c hc))
  have hlower : ((name.map octet).map fun b => (Char.ofNat b.toNat).toLower) = name := by
    rw [List.map_map]
    refine (List.map_congr_left fun c hc => ?_).trans (List.map_id name)
    have h := chars c hc
    simp only [isNameChar, Bool.and_eq_true, beq_iff_eq] at h
    rw [Function.comp_apply, Utf8.char_octet (toNat_lt_of_isNameChar (chars c hc)), h.2, id]
  rw [Domain.ofOctets?, if_pos hascii, hlower]

/-- The name of a host in the form that reading gives it is read letter by letter. -/
theorem ofDomain_name {name : List Char} (chars : ∀ c ∈ name, isNameChar c = true)
    (valid : Domain.isValid name = true) (ne_nil : name ≠ []) :
    ofDomain name =
      if Ipv4.endsInNumber name then
        match Ipv4.ofHost? name with
        | some a => .ok (.ipv4 a)
        | none => .error .invalidIpv4
      else .ok (.domain name) := by
  have hascii : ∀ c ∈ name, c.toNat < 0x80 := fun c hc => toNat_lt_of_isNameChar (chars c hc)
  have hsign : Percent.sign ∉ name.map octet := by
    intro hmem
    obtain ⟨c, hc, hsign⟩ := List.mem_map.mp hmem
    exact sign_ne_octet (chars c hc) hsign.symm
  have hoctets : Percent.decode (Text.bytes (String.ofList name)) = name.map octet := by
    rw [Utf8.bytes_ofList_of_ascii hascii, Percent.decode_eq_self hsign]
  unfold ofDomain
  split
  · -- a name has no bracket
    next rest =>
    have hbracket := chars '[' List.mem_cons_self
    exact absurd hbracket (by decide)
  · have hname : (name.all isNameChar && Domain.isValid name) = true := by
      rw [List.all_eq_true.mpr chars, valid, Bool.and_self]
    rw [hoctets, ofOctets?_name chars]
    dsimp only
    rw [hname, List.isEmpty_eq_false_iff.mpr ne_nil]
    rfl

/-- A dotted address is a valid domain: none of its labels is in another script. -/
theorem isValid_write (a : Ipv4) : Domain.isValid a.write = true := by
  have hlabel : ∀ n, Domain.labelText? (Decimal.ofNat n) = some (Decimal.ofNat n) := by
    intro n
    obtain ⟨c, rest, hcons, hdigit⟩ := Decimal.exists_cons_ofNat n
    rw [hcons]
    unfold Domain.labelText?
    split
    · next hx =>
      rw [(List.cons.inj hx).1] at hdigit
      exact absurd hdigit (by decide)
    · rfl
  have hright : ∀ n, (Decimal.ofNat n).any Domain.runsRight = false := by
    intro n
    rw [List.any_eq_false]
    intro c hc
    have hascii := toNat_lt_of_isDigit (Decimal.isDigit_of_mem_ofNat hc)
    rw [Domain.runsRight, decide_eq_false (by omega), Bool.false_and]
    exact Bool.false_ne_true
  rw [Domain.isValid, Ipv4.splitOn_write]
  simp [Ipv4.octets, hlabel, hright, Domain.agree]

/-- **A normal host is read back** from what it is written as. -/
theorem ofDomain_write {h : Host} (hn : h.Normal) : ofDomain h.write = .ok h := by
  cases hn with
  | domain chars valid ne_nil no_number =>
    rw [write, ofDomain_name chars valid ne_nil, no_number, if_neg Bool.false_ne_true]
  | @ipv4 a bound =>
    have hne : a.write ≠ [] := write_ne_nil (.ipv4 bound)
    rw [write, ofDomain_name (fun c hc => isNameChar_of_mem_write hc) (isValid_write a) hne,
      Ipv4.endsInNumber_write, if_pos rfl, Ipv4.ofHost?_write bound]
  | ipv6 address => rw [write, ofDomain, bracketed_write address]

/-! ## Hosts outside the web -/

/-- A character that can stand in a host outside the web. -/
def isPlainChar (c : Char) : Bool := isStemChar c && !isForbidden c

/-- Such a host has no colon and no bracket either, and nothing of it is escaped again. -/
theorem isHostChar_of_isPlainChar {c : Char} (h : isPlainChar c = true) :
    (isHostChar c = true ∧ c ≠ ':' ∧ c ≠ '[' ∧ c ≠ ']') ∧ isForbidden c = false ∧
      isRaw (octet c) = false := by
  have hascii : c.toNat < 0x80 := toNat_lt_of_isStemChar (Bool.and_eq_true_iff.mp h).1
  revert h
  refine forall_ascii hascii ?_
  decide +kernel

theorem isPlainChar_of_isEscapeChar {c : Char} (h : Percent.isEscapeChar c = true) :
    isPlainChar c = true := by
  have hascii := Percent.toNat_lt_of_isEscapeChar h
  revert h
  refine forall_ascii hascii ?_
  decide +kernel

/-- An octet that stands for itself is printable, and then one of ASCII. -/
theorem isPlainChar_of_not_isRaw {b : UInt8} : (!isRaw b) = true →
    b.toNat < 0x80 ∧ (isForbidden (Char.ofNat b.toNat) = false →
      isPlainChar (Char.ofNat b.toNat) = true) := by
  refine forall_octet b ?_
  decide +kernel

/-- **What a host outside the web is once it was read**: a text that nothing is taken out of, which
may be empty, or an address in brackets. -/
inductive Plain : Host → Prop where
  | domain {name : List Char} (chars : ∀ c ∈ name, isPlainChar c = true) : Plain (.domain name)
  | ipv6 {a : Ipv6} (address : a.IsAddress) : Plain (.ipv6 a)

theorem plain_of_ofPlain {l : List Char} {h : Host} (hl : ofPlain l = .ok h) : h.Plain := by
  unfold ofPlain at hl
  split at hl
  · obtain ⟨a, address, rfl⟩ := exists_of_bracketed hl
    exact .ipv6 address
  · split at hl
    · cases hl
    · next hallowed =>
      cases hl
      refine .domain (Percent.forall_mem_encode (fun _ => isPlainChar_of_isEscapeChar) ?_)
      intro b hb hkept
      obtain ⟨hascii, hplain⟩ := isPlainChar_of_not_isRaw hkept
      -- an octet of ASCII is a character of the text, and none of those is forbidden
      have hmem := Utf8.char_mem_of_octet_mem hascii hb
      apply hplain
      rw [← Bool.not_eq_true]
      exact fun hforbidden => hallowed (List.any_eq_true.mpr ⟨_, hmem, hforbidden⟩)

theorem isHostChar_of_mem_plain {h : Host} (hp : h.Plain) {c : Char} (hc : c ∈ h.write) :
    isHostChar c = true := by
  cases hp with
  | domain chars => exact (isHostChar_of_isPlainChar (chars c hc)).1.1
  | ipv6 _ => exact isHostChar_of_mem_ipv6 hc

/-- **A plain host is read back**, too. -/
theorem ofPlain_write {h : Host} (hp : h.Plain) : ofPlain h.write = .ok h := by
  cases hp with
  | @domain name chars =>
    have hallowed : name.any isForbidden = false := by
      rw [List.any_eq_false]
      exact fun c hc => Bool.eq_false_iff.mp (isHostChar_of_isPlainChar (chars c hc)).2.1
    have hself : Percent.encodeText (!isRaw ·) name = name := by
      apply Percent.encodeText_eq_self
      intro c hc
      obtain ⟨⟨hhost, -⟩, -, hraw⟩ := isHostChar_of_isPlainChar (chars c hc)
      exact ⟨toNat_lt_of_isStemChar (isStemChar_of_isHostChar hhost), by rw [hraw, Bool.not_false]⟩
    unfold ofPlain
    split
    · -- a plain text has no bracket
      next rest hname =>
      have hbracket : '[' ∈ name := by
        rw [← show (Host.domain name).write = name from rfl, hname]
        exact List.mem_cons_self
      exact absurd (chars '[' hbracket) (by decide)
    · rw [write, hallowed, hself]
      rfl
  | ipv6 address => rw [write, ofPlain, bracketed_write address]

theorem isEmpty_of_plain {h : Host} (hp : h.Plain) : h.isEmpty = h.write.isEmpty := by
  cases hp with
  | domain _ => rfl
  | ipv6 _ => rfl

end Host

end LogVault.Url
