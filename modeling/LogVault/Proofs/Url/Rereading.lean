import LogVault.Proofs.Text.Cut
import LogVault.Proofs.Text.Form
import LogVault.Proofs.Url.Stem

/-!
# LogVault.Proofs.Url.Rereading — a written URL is read again

A URL with a path that was read can be given another query and written, and what is written is a
URL whose query is that one, letter by letter (`exists_parse_write`). The reader takes the text apart
at the colon of the scheme, at the first `?`, at the slashes, at the last `@` and at the colon of the
number, and none of these stands inside the part that it ends.
-/

namespace LogVault.Url

open Utf8 (octet)

/-! ## What does not count -/

theorem isOuter_eq_false {c : Char} (h : 0x20 < c.toNat) : isOuter c = false :=
  decide_eq_false (by omega)

/-- A text without blanks and controls is all inner text. -/
theorem inner_eq_self {l : List Char} (h : ∀ c ∈ l, 0x20 < c.toNat) : inner l = l := by
  have hdrop : ∀ l : List Char, (∀ c ∈ l, 0x20 < c.toNat) → l.dropWhile isOuter = l := by
    intro l hl
    cases l with
    | nil => rfl
    | cons c l =>
      have hc := isOuter_eq_false (hl c List.mem_cons_self)
      rw [List.dropWhile_cons, hc, if_neg Bool.false_ne_true]
  -- the end is trimmed by trimming the front of the reverse
  have hreverse := hdrop l.reverse fun c hc => h c (List.mem_reverse.mp hc)
  rw [inner, hdrop l h, Text.dropTrailing, hreverse, List.reverse_reverse]

theorem counted_eq_self {l : List Char} (h : ∀ c ∈ l, 0x20 < c.toNat) : counted l = l := by
  refine List.filter_eq_self.mpr fun c hc => ?_
  have hprintable := h c hc
  rw [Bool.not_eq_true', ← Bool.not_eq_true]
  intro hignored
  simp only [isIgnored, Bool.or_eq_true, beq_iff_eq] at hignored
  rcases hignored with (rfl | rfl) | rfl <;> exact absurd hprintable (by decide)

theorem lt_toNat_of_isStemChar {c : Char} (h : isStemChar c = true) : 0x20 < c.toNat := by
  simp only [isStemChar, Bool.and_eq_true, decide_eq_true_eq] at h
  exact h.1.1.1

theorem endsStem_eq_false {c : Char} (h : isStemChar c = true) : endsStem c = false := by
  simp only [isStemChar, Bool.and_eq_true, bne_iff_ne] at h
  rw [endsStem, beq_eq_false_iff_ne.mpr h.1.2, beq_eq_false_iff_ne.mpr h.2, Bool.or_self]

theorem isSlash_eq_false {c : Char} (h : isAuthorityChar c = true) (web : Bool) :
    isSlash web c = false := by
  simp only [isAuthorityChar, Bool.and_eq_true, bne_iff_ne] at h
  rw [isSlash, beq_eq_false_iff_ne.mpr h.1.2, beq_eq_false_iff_ne.mpr h.2, Bool.and_false,
    Bool.or_self]

/-! ## The scheme -/

/-- **A scheme is read up to its colon.** -/
theorem readScheme_append {scheme : List Char} (h : IsScheme scheme) (rest : List Char) :
    readScheme (scheme ++ ':' :: rest) = some (scheme, rest) := by
  have hreads : ∀ c ∈ scheme, (isSchemeChar c || isIgnored c) = true := fun c hc => by
    rw [(h.chars c hc).1, Bool.true_or]
  have htake : (scheme ++ ':' :: rest).takeWhile (fun c => isSchemeChar c || isIgnored c) =
      scheme := Text.takeWhile_append_cons_of_neg hreads (by decide)
  have hdrop : (scheme ++ ':' :: rest).dropWhile (fun c => isSchemeChar c || isIgnored c) =
      ':' :: rest := Text.dropWhile_append_cons_of_neg hreads (by decide)
  have hcounted : counted scheme = scheme := counted_eq_self fun c hc =>
    lt_toNat_of_isStemChar (isStem_of_isScheme h c hc)
  have hlower : scheme.map Char.toLower = scheme :=
    (List.map_congr_left fun c hc => (h.chars c hc).2).trans (List.map_id scheme)
  obtain ⟨c, others, rfl, hletter⟩ := h.letter
  unfold readScheme
  dsimp only
  rw [htake, hdrop, hcounted]
  simp only [hletter, if_true, hlower]

/-! ## The user part -/

theorem cutUser_eq_none {l : List Char} (h : '@' ∉ l) : cutUser l = none := by
  have hreverse : '@' ∉ l.reverse := fun hmem => h (List.mem_reverse.mp hmem)
  rw [cutUser, Text.dropWhile_bne_eq_nil hreverse]

/-- The user part ends at the last `@`. -/
theorem cutUser_append {l place : List Char} (h : '@' ∉ place) :
    cutUser (l ++ '@' :: place) = some (l, place) := by
  have hreverse : '@' ∉ place.reverse := fun hmem => h (List.mem_reverse.mp hmem)
  have htext : (l ++ '@' :: place).reverse = place.reverse ++ '@' :: l.reverse := by simp
  rw [cutUser, htext, Text.dropWhile_bne_append_cons hreverse,
    Text.takeWhile_bne_append_cons hreverse, List.reverse_reverse]
  simp only [List.reverse_reverse]

/-! ## The host -/

theorem cutHost_append_of_name {l : List Char} (h : ∀ c ∈ l, c ≠ ':' ∧ c ≠ '[' ∧ c ≠ ']')
    (rest : List Char) :
    cutHost false (l ++ rest) = (l ++ (cutHost false rest).1, (cutHost false rest).2) := by
  induction l with
  | nil => rfl
  | cons c l ih =>
    obtain ⟨hcolon, hopen, hclose⟩ := h c List.mem_cons_self
    have hrest := ih fun d hd => h d (List.mem_cons_of_mem c hd)
    rw [List.cons_append, cutHost, if_neg hopen, if_neg hclose, hrest]
    · rfl
    · exact hcolon

/-- Inside brackets a colon belongs to the host. -/
theorem cutHost_append_of_inside {l : List Char} (h : ∀ c ∈ l, c ≠ '[' ∧ c ≠ ']')
    (rest : List Char) :
    cutHost true (l ++ ']' :: rest) =
      (l ++ ']' :: (cutHost false rest).1, (cutHost false rest).2) := by
  induction l with
  | nil =>
    rw [List.nil_append, cutHost, if_neg (by decide), if_pos rfl]
    · rfl
    · decide
  | cons c l ih =>
    obtain ⟨hopen, hclose⟩ := h c List.mem_cons_self
    have hrest := ih fun d hd => h d (List.mem_cons_of_mem c hd)
    by_cases hcolon : c = ':'
    · rw [hcolon, List.cons_append, cutHost, if_pos rfl, hrest]
      rfl
    · rw [List.cons_append, cutHost, if_neg hopen, if_neg hclose, hrest]
      · rfl
      · exact hcolon

/-- A number as written behind a host. -/
def writeNumber : Option Nat → List Char
  | some n => ':' :: Decimal.ofNat n
  | none => []

theorem cutHost_writeNumber (number : Option Nat) :
    cutHost false (writeNumber number) = ([], writeNumber number) := by
  cases number with
  | none => rfl
  | some n => rw [writeNumber, cutHost, if_neg Bool.false_ne_true]

/-- A name without colons and brackets is cut where it ends. -/
theorem cutHost_name {name : List Char} (h : ∀ c ∈ name, c ≠ ':' ∧ c ≠ '[' ∧ c ≠ ']')
    (number : Option Nat) :
    cutHost false (name ++ writeNumber number) = (name, writeNumber number) := by
  rw [cutHost_append_of_name h, cutHost_writeNumber, List.append_nil]

theorem cutHost_ipv6 (a : Ipv6) (number : Option Nat) :
    cutHost false ((Host.ipv6 a).write ++ writeNumber number) =
      ((Host.ipv6 a).write, writeNumber number) := by
  have hinside := cutHost_append_of_inside
    (fun c hc => (Host.isHostChar_of_mem_write (a := a) hc).2) (writeNumber number)
  rw [Host.write, List.cons_append, List.append_assoc, List.singleton_append, cutHost,
    if_pos rfl, hinside, cutHost_writeNumber]
  decide

/-- **A host is cut where it ends.** -/
theorem cutHost_write {scheme : List Char} {h : Host} (hs : h.Settled scheme)
    (number : Option Nat) :
    cutHost false (h.write ++ writeNumber number) = (h.write, writeNumber number) := by
  unfold Host.Settled at hs
  split at hs
  · have hname : ∀ name : List Char, (∀ c ∈ name, Host.isNameChar c = true) →
        cutHost false (name ++ writeNumber number) = (name, writeNumber number) := fun name chars =>
      cutHost_name (fun c hc => (Host.isHostChar_of_isNameChar (chars c hc)).2) number
    cases hs with
    | domain chars _ _ _ => exact hname _ chars
    | ipv4 _ => exact hname _ fun c hc => Host.isNameChar_of_mem_write hc
    | ipv6 _ => exact cutHost_ipv6 _ number
  · cases hs with
    | domain chars =>
      exact cutHost_name (fun c hc => (Host.isHostChar_of_isPlainChar (chars c hc)).1.2) number
    | ipv6 _ => exact cutHost_ipv6 _ number

theorem exists_readNumber_ofNat {n : Nat} (h : n ≤ 65535) (scheme : List Char) :
    ∃ number, readNumber scheme (Decimal.ofNat n) = .ok (number, []) := by
  have htake : (Decimal.ofNat n).takeWhile Char.isDigit = Decimal.ofNat n :=
    List.takeWhile_eq_self_iff.mpr fun c hc => Decimal.isDigit_of_mem_ofNat hc
  have hdrop : (Decimal.ofNat n).dropWhile Char.isDigit = [] :=
    List.dropWhile_eq_nil_iff.mpr fun c hc => Decimal.isDigit_of_mem_ofNat hc
  have hbound : ¬ (65535 < n) := by omega
  refine ⟨if (Decimal.ofNat n).isEmpty || some n = usualNumber? scheme then none else some n, ?_⟩
  simp only [readNumber, htake, hdrop, Decimal.value_ofNat, hbound, decide_false,
    List.isEmpty_nil, Bool.true_or, Bool.not_true, Bool.or_self, Bool.false_eq_true, if_false]

/-- Behind a settled host a number in range is read, and nothing is left. -/
theorem exists_afterHost_writeNumber {scheme : List Char} {h : Host} {number : Option Nat}
    (user : List Char) (hs : h.Settled scheme) (hbare : h.write = [] → user = [] ∧ number = none)
    (hnumber : ∀ n, number = some n → n ≤ 65535) :
    ∃ a, afterHost scheme user h (writeNumber number) = .ok (a, []) := by
  have hisEmpty := Host.isEmpty_of_settled hs
  cases number with
  | none =>
    have husers : (h.isEmpty && !user.isEmpty) = false := by
      rw [hisEmpty, Bool.and_eq_false_iff, Bool.not_eq_false', List.isEmpty_iff]
      by_cases hnil : h.write = []
      · exact .inr (hbare hnil).1
      · exact .inl (List.isEmpty_eq_false_iff.mpr hnil)
    refine ⟨⟨user, h.write, none⟩, ?_⟩
    simp only [writeNumber, afterHost, husers, Bool.false_eq_true, if_false]
    rfl
  | some n =>
    have hthere : h.isEmpty = false := by
      rw [hisEmpty, List.isEmpty_eq_false_iff]
      exact fun hnil => nomatch (hbare hnil).2
    obtain ⟨read, hnumber⟩ := exists_readNumber_ofNat (hnumber n rfl) scheme
    refine ⟨⟨user, h.write, read⟩, ?_⟩
    simp only [writeNumber, afterHost, hthere, hnumber, Bool.false_eq_true, if_false]
    rfl

/-- A settled host and a number in range are read, and nothing is left. -/
theorem exists_readPlace_write {scheme : List Char} {h : Host} {number : Option Nat}
    (user : List Char) (hs : h.Settled scheme) (hbare : h.write = [] → user = [] ∧ number = none)
    (hnumber : ∀ n, number = some n → n ≤ 65535) :
    ∃ a, readPlace scheme user (h.write ++ writeNumber number) = .ok (a, []) := by
  -- in the schemes of the web no host is empty
  have hempty : (isWeb scheme && h.write.isEmpty) = false := by
    cases hweb : isWeb scheme with
    | false => rfl
    | true =>
      have hne := Host.write_ne_nil (Host.normal_of_settled hs hweb)
      rw [List.isEmpty_eq_false_iff.mpr hne, Bool.and_false]
  obtain ⟨a, ha⟩ := exists_afterHost_writeNumber user hs hbare hnumber
  refine ⟨a, ?_⟩
  rw [readPlace_eq, cutHost_write hs, hempty, if_neg Bool.false_ne_true, Host.read_write hs]
  exact ha

/-! ## The authority -/

theorem Authority.write_eq (a : Authority) :
    a.write = a.user ++ (a.host ++ writeNumber a.number) := by
  rw [Authority.write, List.append_assoc]
  cases a.number <;> rfl

theorem isHostChar_of_mem_writeNumber {number : Option Nat} {c : Char}
    (h : c ∈ writeNumber number) : isHostChar c = true := by
  cases number with
  | none => exact absurd h List.not_mem_nil
  | some n =>
    rcases List.mem_cons.mp h with rfl | h
    · decide
    · have hdigit := Host.isNameChar_of_isDigit (Decimal.isDigit_of_mem_ofNat h)
      exact (Host.isHostChar_of_isNameChar hdigit).1

section Authority

variable {scheme : List Char} {a : Authority}

theorem isHostChar_of_mem_place {h : Host} (hs : h.Settled scheme) {number : Option Nat} {c : Char}
    (hc : c ∈ h.write ++ writeNumber number) : isHostChar c = true :=
  (List.mem_append.mp hc).elim (Host.isHostChar_of_mem_settled hs) isHostChar_of_mem_writeNumber

/-- **An authority is read again**, and nothing is left. -/
theorem exists_readAuthority_write (ha : a.IsRead scheme) (hfile : scheme ≠ "file".toList)
    (followed : Bool) : ∃ b, readAuthority scheme followed a.write = .ok (b, []) := by
  obtain ⟨h, hs, hhost⟩ := ha.settled hfile
  have hbare := ha.bare hfile
  rw [hhost] at hbare
  have hat : '@' ∉ h.write ++ writeNumber a.number := fun hmem =>
    absurd (isHostChar_of_mem_place hs hmem) (by decide)
  rw [Authority.write_eq, hhost]
  -- the place has no `@`, so the last one, if there is any, ends the user part
  rcases ha.user with huser | ⟨l, huser, -⟩
  · rw [huser, List.nil_append, readAuthority, cutUser_eq_none hat]
    exact exists_readPlace_write [] hs (fun hnil => ⟨rfl, (hbare hnil).2⟩) ha.number
  · -- beside a user part there is a host
    have hthere : h.write ≠ [] := by
      intro hnil
      rw [(hbare hnil).1] at huser
      exact List.concat_ne_nil '@' l huser.symm
    rw [huser, List.append_assoc, List.singleton_append, readAuthority, cutUser_append hat]
    obtain ⟨c, rest, hcons⟩ := List.exists_cons_of_ne_nil hthere
    have hplace :=
      exists_readPlace_write (writeUser l) hs (fun hnil => absurd hnil hthere) ha.number
    rw [hcons, List.cons_append] at hplace ⊢
    cases l with
    | nil => exact hplace
    | cons d l => exact hplace

theorem isAuthorityChar_of_isHostChar {c : Char} (h : isHostChar c = true) :
    isAuthorityChar c = true := by
  rw [isHostChar, Bool.and_eq_true] at h
  exact h.1

theorem isAuthorityChar_of_mem_write (ha : a.IsRead scheme) (hfile : scheme ≠ "file".toList)
    {c : Char} (hc : c ∈ a.write) : isAuthorityChar c = true := by
  obtain ⟨h, hs, hhost⟩ := ha.settled hfile
  rw [Authority.write_eq, hhost, List.mem_append] at hc
  rcases hc with hc | hc
  · rcases ha.user with huser | ⟨l, huser, chars⟩
    · rw [huser] at hc
      exact absurd hc List.not_mem_nil
    · rw [huser, List.mem_append, List.mem_singleton] at hc
      rcases hc with hc | rfl
      · exact isAuthorityChar_of_isHostChar (chars c hc)
      · decide
  · exact isAuthorityChar_of_isHostChar (isHostChar_of_mem_place hs hc)

theorem Authority.write_ne_nil (ha : a.IsRead scheme) (hweb : isWeb scheme = true)
    (hfile : scheme ≠ "file".toList) : a.write ≠ [] := by
  obtain ⟨h, hn, hhost⟩ := ha.normal hweb hfile
  rw [Authority.write_eq, hhost]
  simp [Host.write_ne_nil hn]

end Authority

/-! ## The path -/

/-- A path as written begins with a slash, so it is cut off where it begins. -/
theorem cut_writePath {l : List Char} (h : ∀ c ∈ l, isAuthorityChar c = true)
    (path : List (List Char)) (web : Bool) :
    (l ++ writePath path).takeWhile (!isSlash web ·) = l ∧
      (l ++ writePath path).dropWhile (!isSlash web ·) = writePath path := by
  have hl : ∀ c ∈ l, (!isSlash web c) = true := fun c hc => by
    rw [isSlash_eq_false (h c hc), Bool.not_false]
  have hslash : (!isSlash web '/') = false := rfl
  cases path with
  | nil =>
    rw [writePath, List.flatMap_nil, List.append_nil]
    exact ⟨List.takeWhile_eq_self_iff.mpr hl, List.dropWhile_eq_nil_iff.mpr hl⟩
  | cons segment path =>
    exact ⟨Text.takeWhile_append_cons_of_neg hl hslash,
      Text.dropWhile_append_cons_of_neg hl hslash⟩

/-! ## The query -/

theorem isQueryChar_facts {c : Char} (h : Form.isQueryChar c = true) :
    0x20 < c.toNat ∧ c ≠ '#' ∧ ∀ web, keepsInQuery web (octet c) = true := by
  have hascii := Form.toNat_lt_of_isQueryChar h
  revert h
  refine forall_ascii hascii ?_
  decide +kernel

/-- **A query of links is read letter by letter.** -/
theorem readQuery_cons {q : List Char} (h : ∀ c ∈ q, Form.isQueryChar c = true) (web : Bool) :
    readQuery web ('?' :: q) = some q := by
  have hnumber : '#' ∉ q := fun hmem => (isQueryChar_facts (h _ hmem)).2.1 rfl
  rw [readQuery, Text.takeWhile_bne_eq_self hnumber, Percent.encodeText_eq_self]
  exact fun c hc => ⟨Form.toNat_lt_of_isQueryChar (h c hc), (isQueryChar_facts (h c hc)).2.2 web⟩

/-! ## The whole URL -/

section Whole

variable {u : Url} {path : List (List Char)} {q : List Char}

/-- The text between the colon of the scheme and the query. -/
def middle (u : Url) : List Char :=
  (match u.authority with
    | some a => '/' :: '/' :: a.write
    | none => []) ++ (if u.guarded then ['/', '.'] else []) ++ u.way.write

theorem writeStem_eq (u : Url) : u.writeStem = u.scheme ++ ':' :: u.middle := rfl

theorem middle_of_authority {a : Authority} (hu : u.IsRead) (ha : u.authority = some a)
    (hway : u.way = .segments path) : u.middle = '/' :: '/' :: (a.write ++ writePath path) := by
  have hguarded : u.guarded = false := hu.guarded (by rw [ha]; exact nofun)
  simp [middle, ha, hguarded, hway, Way.write]

/-- **A written URL is taken apart where it was put together**: at the colon of the scheme, and at
the first `?`. -/
theorem parse_write (hu : u.IsRead) (hway : u.way = .segments path)
    (hq : ∀ c ∈ q, Form.isQueryChar c = true) :
    parse (String.ofList { u with query := some q }.write) =
      if u.scheme = "file".toList then readFile u.scheme u.middle ('?' :: q)
      else if isWeb u.scheme then readWeb u.scheme u.middle ('?' :: q)
      else readOther u.scheme u.middle ('?' :: q) := by
  have hstem := isStem_writeStem hu hway
  rw [writeStem_eq] at hstem
  have htext : { u with query := some q }.write = u.scheme ++ ':' :: (u.middle ++ '?' :: q) := by
    show u.writeStem ++ '?' :: q = _
    rw [writeStem_eq, List.append_assoc]
    rfl
  have hmiddle : IsStem u.middle := fun c hc =>
    hstem c (List.mem_append_right _ (List.mem_cons_of_mem _ hc))
  -- nothing is trimmed: there are no blanks in the stem or in the query
  have hinner : inner (u.scheme ++ ':' :: (u.middle ++ '?' :: q)) =
      u.scheme ++ ':' :: (u.middle ++ '?' :: q) := by
    apply inner_eq_self
    intro c hc
    rw [← List.cons_append, ← List.append_assoc, List.mem_append, List.mem_cons] at hc
    rcases hc with hc | rfl | hc
    · exact lt_toNat_of_isStemChar (hstem c hc)
    · decide
    · exact (isQueryChar_facts (hq c hc)).1
  -- the stem runs up to the `?` of the query
  have hends : ∀ c ∈ u.middle, (!endsStem c) = true := fun c hc => by
    rw [endsStem_eq_false (hmiddle c hc), Bool.not_false]
  have htake : (u.middle ++ '?' :: q).takeWhile (!endsStem ·) = u.middle :=
    Text.takeWhile_append_cons_of_neg hends (by decide)
  have hdrop : (u.middle ++ '?' :: q).dropWhile (!endsStem ·) = '?' :: q :=
    Text.dropWhile_append_cons_of_neg hends (by decide)
  have hcounted : counted u.middle = u.middle := counted_eq_self fun c hc =>
    lt_toNat_of_isStemChar (hmiddle c hc)
  have htail : counted ('?' :: q) = '?' :: q := by
    apply counted_eq_self
    intro c hc
    rcases List.mem_cons.mp hc with rfl | hc
    · decide
    · exact (isQueryChar_facts (hq c hc)).1
  rw [htext, parse, String.toList_ofList, hinner, readScheme_append hu.scheme]
  simp only [htake, hdrop, hcounted, htail]

theorem exists_readWeb {scheme : List Char} {a : Authority} (ha : a.IsRead scheme)
    (hweb : isWeb scheme = true) (hfile : scheme ≠ "file".toList) (path : List (List Char))
    (tail : List Char) :
    ∃ v, readWeb scheme ('/' :: '/' :: (a.write ++ writePath path)) tail = .ok v ∧
      v.query = readQuery true tail := by
  have hchars := fun c hc => isAuthorityChar_of_mem_write (c := c) ha hfile hc
  have hdrop : ('/' :: '/' :: (a.write ++ writePath path)).dropWhile (isSlash true) =
      a.write ++ writePath path := by
    obtain ⟨c, rest, hcons⟩ := List.exists_cons_of_ne_nil (Authority.write_ne_nil ha hweb hfile)
    have hc : isSlash true c = false := by
      refine isSlash_eq_false (hchars c ?_) true
      rw [hcons]
      exact List.mem_cons_self
    rw [hcons, List.cons_append]
    simp only [List.dropWhile_cons, hc, Bool.false_eq_true, if_false]
    rfl
  obtain ⟨htake, hrest⟩ := cut_writePath hchars path true
  obtain ⟨b, hb⟩ := exists_readAuthority_write ha hfile (!(writePath path ++ tail).isEmpty)
  refine ⟨⟨scheme, some b, false, .segments (pathOf .web ((writePath path).drop 1)),
    readQuery true tail⟩, ?_, rfl⟩
  simp only [readWeb, hdrop, htake, hrest, hb]
  rfl

/-- Outside the web an authority ends at the first slash. -/
theorem exists_readOther_of_authority {scheme : List Char} {a : Authority} (ha : a.IsRead scheme)
    (hfile : scheme ≠ "file".toList) (path : List (List Char)) (tail : List Char) :
    ∃ v, readOther scheme ('/' :: '/' :: (a.write ++ writePath path)) tail = .ok v ∧
      v.query = readQuery false tail := by
  have hchars := fun c hc => isAuthorityChar_of_mem_write (c := c) ha hfile hc
  obtain ⟨htake, hrest⟩ := cut_writePath hchars path false
  obtain ⟨b, hb⟩ := exists_readAuthority_write ha hfile (!(writePath path ++ tail).isEmpty)
  simp only [readOther, htake, hrest, hb]
  exact ⟨_, rfl, rfl⟩

/-- Without two slashes in front there is no authority to be read. -/
theorem exists_readOther_of_apart {stem : List Char} (h : ∀ rest, stem ≠ '/' :: '/' :: rest)
    (scheme tail : List Char) :
    ∃ v, readOther scheme stem tail = .ok v ∧ v.query = readQuery false tail := by
  unfold readOther
  dsimp only
  split
  · next rest => exact absurd rfl (h rest)
  · exact ⟨_, rfl, rfl⟩
  · exact ⟨_, rfl, rfl⟩

/-- What is written without an authority does not look like one. -/
theorem middle_ne_of_apart (hu : u.IsRead) (ha : u.authority = none)
    (hway : u.way = .segments path) (rest : List Char) : u.middle ≠ '/' :: '/' :: rest := by
  cases hguarded : u.guarded with
  | true => simp [middle, ha, hguarded]
  | false =>
    have hmiddle : u.middle = writePath path := by simp [middle, ha, hguarded, hway, Way.write]
    rw [hmiddle]
    exact hu.apart ha hguarded path hway rest

theorem afterSlash?_cons (l : List Char) : afterSlash? ('/' :: l) = some l := rfl

/-- **The host of a file is read again**, if it is there. -/
theorem exists_readFile {host : List Char} (hhost : IsFileHost host) (path : List (List Char))
    (scheme tail : List Char) :
    ∃ v, readFile scheme ('/' :: '/' :: (host ++ writePath path)) tail = .ok v ∧
      v.query = readQuery true tail := by
  have hchars : ∀ c ∈ host, isAuthorityChar c = true := by
    intro c hc
    rcases hhost with rfl | ⟨h, hnormal, rfl⟩
    · exact absurd hc List.not_mem_nil
    · exact isAuthorityChar_of_isHostChar (Host.isHostChar_of_mem hnormal hc)
  obtain ⟨htake, hdrop⟩ := cut_writePath hchars path true
  have hcounted : counted host = host :=
    counted_eq_self fun c hc => lt_toNat_of_isStemChar (isStem_of_isFileHost hhost c hc)
  unfold readFile
  simp only [afterSlash?_cons, htake, hdrop, hcounted]
  split
  · exact ⟨_, rfl, rfl⟩
  · split
    · exact ⟨_, rfl, rfl⟩
    · next hempty =>
      rcases hhost with rfl | ⟨h, hnormal, rfl⟩
      · exact absurd rfl hempty
      · rw [Host.ofDomain_write hnormal]
        simp only [bind, Except.bind]
        split
        · exact ⟨_, rfl, rfl⟩
        · exact ⟨_, rfl, rfl⟩

/-- **A URL with another query is read again**, and its query is that one. -/
theorem exists_parse_write (hu : u.IsRead) (hway : u.way = .segments path)
    (hq : ∀ c ∈ q, Form.isQueryChar c = true) :
    ∃ v, parse (String.ofList { u with query := some q }.write) = .ok v ∧ v.query = some q := by
  rw [parse_write hu hway hq]
  split
  · next hfile =>
    obtain ⟨host, ha, hhost⟩ := hu.file hfile
    have hwrite : Authority.write ⟨[], host, none⟩ = host := by simp [Authority.write]
    rw [middle_of_authority hu ha hway, hwrite, ← readQuery_cons hq true]
    exact exists_readFile hhost path u.scheme ('?' :: q)
  · next hfile =>
    split
    · next hweb =>
      obtain ⟨a, ha⟩ := Option.ne_none_iff_exists'.mp (hu.web hweb)
      rw [middle_of_authority hu ha hway, ← readQuery_cons hq true]
      exact exists_readWeb (hu.authority a ha) hweb hfile path ('?' :: q)
    · rw [← readQuery_cons hq false]
      cases ha : u.authority with
      | none => exact exists_readOther_of_apart (middle_ne_of_apart hu ha hway) u.scheme ('?' :: q)
      | some a =>
        rw [middle_of_authority hu ha hway]
        exact exists_readOther_of_authority (hu.authority a ha) hfile path ('?' :: q)

end Whole

end LogVault.Url
