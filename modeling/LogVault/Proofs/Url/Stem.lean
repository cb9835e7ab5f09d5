import LogVault.Proofs.Reading
import LogVault.Proofs.Url.Apart
import LogVault.Proofs.Url.Host

/-!
# LogVault.Proofs.Url.Stem — what a URL that was read consists of

Whatever the scheme, the parts of a URL that was read hold only characters that may stand before its
query (`isRead_of_parse`): a part is escaped, or checked, or made of letters. So the first `?` of a
URL as written stands where its query begins (`isStem_writeStem`).

More is known, and enough to read the URL again: its host is normal in the schemes of the web and
plain in others, a user part ends at its only `@`, and a path without a host in front of it is not
taken for one.
-/

namespace LogVault

namespace Url

/-! ## Escaped texts -/

theorem isStemChar_of_isEscapeChar {c : Char} (h : Percent.isEscapeChar c = true) :
    isStemChar c = true := by
  have hascii := Percent.toNat_lt_of_isEscapeChar h
  revert h
  refine forall_ascii hascii ?_
  decide +kernel

theorem isStem_encodeText {keep : UInt8 → Bool} {l : List Char}
    (h : ∀ b ∈ l.flatMap String.utf8EncodeChar, keep b = true →
      isStemChar (Char.ofNat b.toNat) = true) : IsStem (Percent.encodeText keep l) :=
  Percent.forall_mem_encode (fun _ => isStemChar_of_isEscapeChar) h

theorem isStemChar_of_keepsInPath {b : UInt8} :
    keepsInPath b = true → isStemChar (Char.ofNat b.toNat) = true := by
  refine Utf8.forall_octet b ?_
  decide +kernel

theorem isStem_encodeSegment (l : List Char) : IsStem (encodeSegment l) :=
  isStem_encodeText fun _ _ => isStemChar_of_keepsInPath

theorem isStemChar_of_isAlpha {c : Char} (h : c.isAlpha = true) : isStemChar c = true := by
  have hascii : c.toNat < 0x80 := by
    rcases Bool.or_eq_true_iff.mp h with hupper | hlower
    · have hle : c.val ≤ 'Z'.val := (of_decide_eq_true hupper).2
      exact Nat.lt_of_le_of_lt (UInt32.le_iff_toNat_le.mp hle) (by decide)
    · have hle : c.val ≤ 'z'.val := of_decide_eq_true (Bool.and_eq_true_iff.mp hlower).2
      exact Nat.lt_of_le_of_lt (UInt32.le_iff_toNat_le.mp hle) (by decide)
  revert h
  refine forall_ascii hascii ?_
  decide +kernel

/-! ## Paths -/

/-- Every segment may stand before the query. -/
def IsPath (path : List (List Char)) : Prop := ∀ segment ∈ path, IsStem segment

theorem isPath_append {path segments : List (List Char)} (hp : IsPath path)
    (hs : IsPath segments) : IsPath (path ++ segments) :=
  fun segment h => (List.mem_append.mp h).elim (hp segment) (hs segment)

theorem isPath_singleton {segment : List Char} (h : IsStem segment) : IsPath [segment] :=
  List.forall_mem_singleton.mpr h

theorem isStem_writePath {path : List (List Char)} (h : IsPath path) : IsStem (writePath path) := by
  intro c hc
  obtain ⟨segment, hsegment, hc⟩ := List.mem_flatMap.mp hc
  exact isStem_cons (by decide) (h segment hsegment) c hc

namespace Trail

theorem isPath_push {t : Trail} {segment : List Char} (ht : IsPath t.segments)
    (hs : IsStem segment) : IsPath (t.push segment).segments :=
  isPath_append ht (isPath_singleton hs)

theorem isPath_parent {t : Trail} (ht : IsPath t.segments) : IsPath t.parent.segments := by
  unfold parent
  split
  · exact ht
  · exact fun segment h => ht segment ((List.dropLast_sublist _).subset h)

theorem isPath_append {t : Trail} {rules : Rules} {segment : List Char} (ht : IsPath t.segments)
    (hs : IsStem segment) : IsPath (t.append rules segment).segments := by
  unfold append
  split
  · have hletter : IsStem (segment.take 1) := fun c hc => hs c (List.mem_of_mem_take hc)
    have hdrive : IsStem (driveWithColon segment) :=
      isStem_append hletter (isStem_cons (by decide) isStem_nil)
    exact isPath_singleton hdrive
  · exact isPath_push ht hs

theorem isStem_of_cutDrive? {text drive rest : List Char}
    (h : cutDrive? text = some (drive, rest)) : IsStem drive := by
  unfold cutDrive? at h
  split at h
  · split at h
    · split at h
      · next hletter =>
        obtain ⟨_, -, hpair⟩ := Option.map_eq_some_iff.mp h
        cases hpair
        exact isStem_cons (isStemChar_of_isAlpha hletter) (isStem_cons (by decide) isStem_nil)
      · cases h
    · cases h
  · cases h

/-- One more text between slashes keeps the path fit to stand before the query. -/
theorem isPath_step {t : Trail} {rules : Rules} {last : Bool} {text : List Char}
    (ht : IsPath t.segments) : IsPath (t.step rules last text).segments := by
  unfold step
  split
  · -- a drive letter and its colon are put back as they were read
    next drive rest hdrive =>
    have hcut : cutDrive? text = some (drive, rest) := by
      split at hdrive
      · exact hdrive
      · cases hdrive
    exact isPath_push (isPath_push ht (isStem_of_cutDrive? hcut)) (isStem_encodeSegment rest)
  · split
    · -- a dot stays where it is, two dots go up, and either leaves an empty segment at the end
      split
      · exact isPath_push ht isStem_nil
      · exact ht
    · split
      · exact isPath_push (isPath_parent ht) isStem_nil
      · exact isPath_parent ht
    · next segment hstep =>
      rw [Step.eq_of_ofSegment hstep]
      exact isPath_append ht (isStem_encodeSegment _)

theorem isPath_follow {t : Trail} {rules : Rules} {texts : List (List Char)}
    (ht : IsPath t.segments) : IsPath (t.follow rules texts).segments := by
  induction texts generalizing t with
  | nil => exact ht
  | cons text rest ih => exact ih (isPath_step ht)

end Trail

theorem isPath_trailOf (rules : Rules) (l : List Char) : IsPath (trailOf rules l).segments :=
  Trail.isPath_follow fun _ h => absurd h List.not_mem_nil

theorem isPath_trimLeading {path : List (List Char)} (h : IsPath path) :
    IsPath (trimLeading path) := by
  fun_induction trimLeading path with
  | case1 segment rest ih => exact ih fun s hs => h s (List.mem_cons_of_mem [] hs)
  | case2 path _ => exact h

/-! ## Schemes -/

theorem toNat_lt_of_isSchemeChar {c : Char} (h : isSchemeChar c = true) : c.toNat < 0x80 := by
  simp only [isSchemeChar, Char.isAlphanum, Bool.or_eq_true, beq_iff_eq] at h
  rcases h with (((h | h) | rfl) | rfl) | rfl
  · exact toNat_lt_of_isStemChar (isStemChar_of_isAlpha h)
  · exact toNat_lt_of_isDigit h
  · decide
  · decide
  · decide

/-- In lower case a character of a scheme is one, too, and a letter stays a letter. -/
theorem isSchemeChar_toLower {c : Char} (h : isSchemeChar c = true) :
    isSchemeChar c.toLower = true ∧ c.toLower.toLower = c.toLower ∧
      (c.isAlpha = true → c.toLower.isAlpha = true) := by
  have hascii := toNat_lt_of_isSchemeChar h
  revert h
  refine forall_ascii hascii ?_
  decide +kernel

/-- **A scheme as it is kept**: a letter and further characters of schemes, all in lower case. -/
structure IsScheme (scheme : List Char) : Prop where
  chars : ∀ c ∈ scheme, isSchemeChar c = true ∧ c.toLower = c
  letter : ∃ c rest, scheme = c :: rest ∧ c.isAlpha = true

theorem isScheme_of_readScheme {l scheme rest : List Char}
    (h : readScheme l = some (scheme, rest)) : IsScheme scheme := by
  have hcounted : ∀ c ∈ counted (l.takeWhile fun c => isSchemeChar c || isIgnored c),
      isSchemeChar c = true := by
    intro c hc
    obtain ⟨hmem, hcounts⟩ := List.mem_filter.mp hc
    have hread := List.mem_takeWhile_imp hmem
    rw [Bool.not_eq_true'] at hcounts
    rwa [hcounts, Bool.or_false] at hread
  unfold readScheme at h
  dsimp only at h
  generalize counted (l.takeWhile fun c => isSchemeChar c || isIgnored c) = name at h hcounted
  split at h
  · next first others _ _ =>
    split at h
    · next hletter =>
      cases h
      refine ⟨fun c hc => ?_, first.toLower, others.map Char.toLower, rfl, ?_⟩
      · obtain ⟨d, hd, rfl⟩ := List.mem_map.mp hc
        obtain ⟨hchar, hlower, -⟩ := isSchemeChar_toLower (hcounted d hd)
        exact ⟨hchar, hlower⟩
      · exact (isSchemeChar_toLower (hcounted first List.mem_cons_self)).2.2 hletter
    · cases h
  · cases h

theorem isStem_of_isScheme {scheme : List Char} (h : IsScheme scheme) : IsStem scheme := by
  intro c hc
  have hchar := (h.chars c hc).1
  have hascii := toNat_lt_of_isSchemeChar hchar
  revert hchar
  refine forall_ascii hascii ?_
  decide +kernel

theorem isScheme_of_all {c : Char} {rest : List Char} (hletter : c.isAlpha = true)
    (h : (c :: rest).all (fun d => isSchemeChar d && d.toLower == d) = true) :
    IsScheme (c :: rest) := by
  refine ⟨fun d hd => ?_, c, rest, rfl, hletter⟩
  have hd := List.all_eq_true.mp h d hd
  rwa [Bool.and_eq_true, beq_iff_eq] at hd

theorem isScheme_of_isWeb {scheme : List Char} (h : isWeb scheme = true) : IsScheme scheme := by
  obtain ⟨word, rfl⟩ : ∃ word : String, scheme = word.toList :=
    ⟨String.ofList scheme, String.toList_ofList.symm⟩
  simp only [isWeb, String.ofList_toList, List.contains_cons, List.contains_nil, Bool.or_false,
    Bool.or_eq_true, beq_iff_eq] at h
  rcases h with rfl | rfl | rfl | rfl | rfl | rfl <;> exact isScheme_of_all (by decide) (by decide)

/-! ## Authorities -/

/-- A user part: nothing, or a text without `@` and then an `@`. -/
def IsUser (user : List Char) : Prop :=
  user = [] ∨ ∃ l, user = l ++ ['@'] ∧ ∀ c ∈ l, isHostChar c = true

/-- What a host is once it was read: normal in the schemes of the web, plain in others. -/
def Host.Settled (scheme : List Char) (h : Host) : Prop :=
  if isWeb scheme then h.Normal else h.Plain

/-- **What an authority is once it was read.** The host of a file is another matter. In any other
scheme a host may be empty outside the web, and then nothing stands beside it. -/
structure Authority.IsRead (scheme : List Char) (a : Authority) : Prop where
  user : IsUser a.user
  host : IsStem a.host
  settled : scheme ≠ "file".toList → ∃ h : Host, h.Settled scheme ∧ a.host = h.write
  bare : scheme ≠ "file".toList → a.host = [] → a.user = [] ∧ a.number = none
  number : ∀ n, a.number = some n → n ≤ 65535

theorem isHostChar_of_mem_encodeText {l : List Char} :
    ∀ c ∈ Percent.encodeText keepsInUser l, isHostChar c = true := by
  have hescape : ∀ c, Percent.isEscapeChar c = true → isHostChar c = true := by
    intro c hc
    have hascii := toNat_lt_of_isStemChar (isStemChar_of_isEscapeChar hc)
    revert hc
    refine forall_ascii hascii ?_
    decide +kernel
  have hkeep : ∀ b : UInt8, keepsInUser b = true → isHostChar (Char.ofNat b.toNat) = true := by
    intro b
    refine Utf8.forall_octet b ?_
    decide +kernel
  exact Percent.forall_mem_encode hescape fun b _ => hkeep b

theorem isUser_writeUser (l : List Char) : IsUser (writeUser l) := by
  have hname := isHostChar_of_mem_encodeText (l := l.takeWhile (· != ':'))
  have hword := isHostChar_of_mem_encodeText (l := (l.dropWhile (· != ':')).drop 1)
  have huser : ∀ user : List Char, (∀ c ∈ user, isHostChar c = true) →
      IsUser (if user.isEmpty then [] else user ++ ['@']) := by
    intro user hchars
    split
    · exact .inl rfl
    · exact .inr ⟨user, rfl, hchars⟩
  unfold writeUser
  apply huser
  split
  · exact hname
  · intro c hc
    rcases List.mem_append.mp hc with hc | hc
    · exact hname c hc
    · rcases List.mem_cons.mp hc with rfl | hc
      · decide
      · exact hword c hc

section Hosts

variable {scheme : List Char} {h : Host}

/-- What is read in either way is settled. -/
theorem Host.settled_of_read (name : List Char)
    (hread : (if isWeb scheme then Host.ofDomain name else Host.ofPlain name) = .ok h) :
    h.Settled scheme := by
  unfold Settled
  split at hread
  · next hweb =>
    rw [if_pos hweb]
    exact Host.normal_of_ofDomain hread
  · next hweb =>
    rw [if_neg hweb]
    exact Host.plain_of_ofPlain hread

/-- **A settled host is read back** in the way of its scheme. -/
theorem Host.read_write (hs : h.Settled scheme) :
    (if isWeb scheme then Host.ofDomain h.write else Host.ofPlain h.write) = .ok h := by
  unfold Settled at hs
  split at hs
  · next hweb => rw [if_pos hweb, Host.ofDomain_write hs]
  · next hweb => rw [if_neg hweb, Host.ofPlain_write hs]

theorem Host.isHostChar_of_mem_settled (hs : h.Settled scheme) {c : Char} (hc : c ∈ h.write) :
    isHostChar c = true := by
  unfold Settled at hs
  split at hs
  · exact Host.isHostChar_of_mem hs hc
  · exact Host.isHostChar_of_mem_plain hs hc

theorem Host.isEmpty_of_settled (hs : h.Settled scheme) : h.isEmpty = h.write.isEmpty := by
  unfold Settled at hs
  split at hs
  · rw [Host.isEmpty_of_normal hs, List.isEmpty_eq_false_iff.mpr (Host.write_ne_nil hs)]
  · exact Host.isEmpty_of_plain hs

theorem Host.normal_of_settled (hs : h.Settled scheme) (hweb : isWeb scheme = true) :
    h.Normal := by
  rwa [Settled, if_pos hweb] at hs

end Hosts

theorem number_le_of_readNumber {scheme l rest : List Char} {number : Option Nat}
    (h : readNumber scheme l = .ok (number, rest)) : ∀ n, number = some n → n ≤ 65535 := by
  unfold readNumber at h
  dsimp only at h
  split at h
  · cases h
  · next hbound =>
    simp only [Bool.or_eq_true, decide_eq_true_eq, not_or, Nat.not_lt] at hbound
    cases h
    intro n hn
    split at hn
    · cases hn
    · cases hn
      exact hbound.1

/-- A settled host, with a user part and a number in range. -/
theorem Authority.isRead_mk {scheme user : List Char} {host : Host} {number : Option Nat}
    (huser : IsUser user) (hhost : host.Settled scheme)
    (hbare : host.isEmpty = true → user = [] ∧ number = none)
    (hnumber : ∀ n, number = some n → n ≤ 65535) :
    Authority.IsRead scheme ⟨user, host.write, number⟩ where
  user := huser
  host c hc := isStemChar_of_isHostChar (Host.isHostChar_of_mem_settled hhost hc)
  settled _ := ⟨host, hhost, rfl⟩
  bare _ hnil := hbare (by rw [Host.isEmpty_of_settled hhost]; exact List.isEmpty_iff.mpr hnil)
  number := hnumber

/-- In the schemes of the web an authority has a normal host. -/
theorem Authority.IsRead.normal {scheme : List Char} {a : Authority} (ha : a.IsRead scheme)
    (hweb : isWeb scheme = true) (hfile : scheme ≠ "file".toList) :
    ∃ h : Host, h.Normal ∧ a.host = h.write := by
  obtain ⟨h, hs, hhost⟩ := ha.settled hfile
  exact ⟨h, Host.normal_of_settled hs hweb, hhost⟩

/-- What is read behind a host that is known: a port, or nothing. -/
def afterHost (scheme user : List Char) (host : Host) (rest : List Char) :
    Except Flaw (Authority × List Char) := do
  match rest with
  | ':' :: rest =>
    if host.isEmpty then throw .emptyHost
    let (number, rest) ← readNumber scheme rest
    return (⟨user, host.write, number⟩, rest)
  | rest =>
    if host.isEmpty && !user.isEmpty then throw .emptyHost
    return (⟨user, host.write, none⟩, rest)

/-- A place is read host first, and alike behind the host whichever way the host was read. -/
theorem readPlace_eq (scheme user l : List Char) :
    readPlace scheme user l =
      if isWeb scheme && (cutHost false l).1.isEmpty then .error .emptyHost
      else (if isWeb scheme then Host.ofDomain (cutHost false l).1
        else Host.ofPlain (cutHost false l).1) >>= fun host =>
          afterHost scheme user host (cutHost false l).2 := by
  unfold readPlace
  dsimp only
  split
  · rfl
  · cases isWeb scheme <;> rfl

theorem isRead_of_afterHost {scheme user l rest : List Char} {host : Host} {a : Authority}
    (huser : IsUser user) (hhost : host.Settled scheme)
    (h : afterHost scheme user host l = .ok (a, rest)) : a.IsRead scheme := by
  unfold afterHost at h
  split at h
  · split at h
    · cases h
    · next hempty =>
      obtain ⟨⟨number, rest'⟩, hnumber, h⟩ := Except.exists_of_bind_eq_ok h
      cases h
      exact Authority.isRead_mk huser hhost (fun h => absurd h hempty)
        (number_le_of_readNumber hnumber)
  · split at h
    · cases h
    · next hempty =>
      cases h
      refine Authority.isRead_mk huser hhost (fun h => ⟨?_, rfl⟩) nofun
      simpa [h] using hempty

theorem isRead_of_readPlace {scheme user l rest : List Char} {a : Authority} (huser : IsUser user)
    (h : readPlace scheme user l = .ok (a, rest)) : a.IsRead scheme := by
  rw [readPlace_eq] at h
  split at h
  · cases h
  · obtain ⟨host, hread, h⟩ := Except.exists_of_bind_eq_ok h
    exact isRead_of_afterHost huser (Host.settled_of_read _ hread) h

theorem isRead_of_readAuthority {scheme l rest : List Char} {followed : Bool} {a : Authority}
    (h : readAuthority scheme followed l = .ok (a, rest)) : a.IsRead scheme := by
  unfold readAuthority at h
  split at h
  · exact isRead_of_readPlace (.inl rfl) h
  · split at h
    · cases h
    · exact isRead_of_readPlace (.inl rfl) h
  · exact isRead_of_readPlace (isUser_writeUser _) h

/-! ## Whole URLs -/

/-- The host of a file: none, or a normal one. -/
def IsFileHost (host : List Char) : Prop := host = [] ∨ ∃ h : Host, h.Normal ∧ host = h.write

/-- **What a URL is once it was read.** -/
structure IsRead (u : Url) : Prop where
  scheme : IsScheme u.scheme
  authority : ∀ a, u.authority = some a → a.IsRead u.scheme
  path : ∀ path, u.way = .segments path → IsPath path
  web : isWeb u.scheme = true → u.authority ≠ none
  file : u.scheme = "file".toList → ∃ host, u.authority = some ⟨[], host, none⟩ ∧ IsFileHost host
  guarded : u.authority ≠ none → u.guarded = false
  apart : u.authority = none → u.guarded = false → ∀ path, u.way = .segments path → IsApart path

section Schemes

variable {scheme stem tail : List Char} {u : Url}

/-- Outside files, with an authority and a path. -/
theorem isRead_mk {a : Authority} {path : List (List Char)} {query : Option (List Char)}
    (hscheme : IsScheme scheme) (hfile : scheme ≠ "file".toList) (ha : a.IsRead scheme)
    (hpath : IsPath path) : IsRead ⟨scheme, some a, false, .segments path, query⟩ where
  scheme := hscheme
  authority := by
    rintro _ ⟨⟩
    exact ha
  path := by
    rintro _ ⟨⟩
    exact hpath
  web _ := nofun
  file h := absurd h hfile
  guarded _ := rfl
  apart := nofun

theorem isRead_of_readWeb (hscheme : IsScheme scheme) (hfile : scheme ≠ "file".toList)
    (h : readWeb scheme stem tail = .ok u) : u.IsRead := by
  obtain ⟨⟨a, rest⟩, ha, h⟩ := Except.exists_of_bind_eq_ok h
  cases h
  exact isRead_mk hscheme hfile (isRead_of_readAuthority ha) (isPath_trailOf _ _)

theorem isStem_of_isFileHost {host : List Char} (h : IsFileHost host) : IsStem host := by
  rcases h with rfl | ⟨h, hnormal, rfl⟩
  · exact isStem_nil
  · exact fun c hc => isStemChar_of_isHostChar (Host.isHostChar_of_mem hnormal hc)

/-- A file on the machine itself or on a host that was read. -/
theorem isRead_fileAt {host : List Char} {trail : Trail} (hhost : IsFileHost host)
    (htrail : IsPath trail.segments) : (fileAt "file".toList host trail tail).IsRead := by
  have hkept : IsFileHost (if trail.onMachine then [] else host) := by
    split
    · exact .inl rfl
    · exact hhost
  have hscheme : IsScheme "file".toList := isScheme_of_isWeb (by decide)
  refine ⟨hscheme, ?_, ?_, fun _ => nofun, fun _ => ⟨_, rfl, hkept⟩, fun _ => rfl, nofun⟩
  · rintro _ ⟨⟩
    exact ⟨.inl rfl, isStem_of_isFileHost hkept, fun hfile => absurd rfl hfile,
      fun hfile => absurd rfl hfile, nofun⟩
  · rintro _ ⟨⟩
    exact isPath_trimLeading htrail

theorem isRead_of_readFile (h : readFile "file".toList stem tail = .ok u) : u.IsRead := by
  have hhere : ∀ path, (fileAt "file".toList [] (trailOf .file path) tail).IsRead := fun path =>
    isRead_fileAt (.inl rfl) (isPath_trailOf _ _)
  unfold readFile at h
  dsimp only at h
  split at h
  · cases h
    exact hhere _
  · split at h
    · cases h
      exact hhere _
    · split at h
      · cases h
        exact hhere _
      · split at h
        · cases h
          exact hhere _
        · obtain ⟨host, hhost, h⟩ := Except.exists_of_bind_eq_ok h
          split at h
          · cases h
            exact hhere _
          · cases h
            exact isRead_fileAt (.inr ⟨host, Host.normal_of_ofDomain hhost, rfl⟩)
              (isPath_trailOf _ _)

theorem isRead_of_readOther (hscheme : IsScheme scheme) (hweb : ¬ isWeb scheme = true)
    (h : readOther scheme stem tail = .ok u) : u.IsRead := by
  have hfile : scheme ≠ "file".toList := by
    rintro rfl
    exact hweb (by decide)
  unfold readOther at h
  dsimp only at h
  split at h
  · obtain ⟨⟨a, rest⟩, ha, h⟩ := Except.exists_of_bind_eq_ok h
    cases h
    refine isRead_mk hscheme hfile (isRead_of_readAuthority ha) ?_
    dsimp only
    split
    · exact fun _ h => absurd h List.not_mem_nil
    · exact isPath_trailOf _ _
    · exact isPath_trailOf _ _
  · cases h
    refine ⟨hscheme, nofun, ?_, fun h => absurd h hweb, fun h => absurd h hfile,
      fun h => absurd rfl h, ?_⟩
    · rintro _ ⟨⟩
      exact isPath_trailOf _ _
    · -- without a guard no empty segment stands in front
      rintro - hguarded _ ⟨⟩
      refine isApart_of_hasNoSlash (hasNoSlash_pathOf _) fun segment rest heq => ?_
      rw [heq] at hguarded
      cases hguarded
  · cases h
    exact ⟨hscheme, nofun, nofun, fun h => absurd h hweb, fun h => absurd h hfile,
      fun h => absurd rfl h, nofun⟩

end Schemes

/-- **Reading gives a URL whose parts are in order.** -/
theorem isRead_of_parse {s : String} {u : Url} (h : parse s = .ok u) : u.IsRead := by
  unfold parse at h
  split at h
  · cases h
  · next scheme rest hscheme =>
    have hname := isScheme_of_readScheme hscheme
    dsimp only at h
    split at h
    · next hfile =>
      rw [hfile] at h
      exact isRead_of_readFile h
    · next hfile =>
      split at h
      · exact isRead_of_readWeb hname hfile h
      · next hweb => exact isRead_of_readOther hname hweb h

theorem isPath_descend {path segments : List (List Char)} (hp : IsPath path)
    (hs : IsPath segments) : IsPath (descend path segments) := by
  have hkept : IsPath
      (if path.getLast? = some [] ∧ 2 ≤ path.length then path.dropLast else path) := by
    split
    · exact fun s h => hp s ((List.dropLast_sublist _).subset h)
    · exact hp
  unfold descend
  dsimp only
  refine isPath_append ?_ hs
  generalize (if path.getLast? = some [] ∧ 2 ≤ path.length then path.dropLast else path) = kept
    at hkept ⊢
  split
  · exact fun s h => absurd h List.not_mem_nil
  · exact hkept

/-- A URL further down is in order, too, and has a path. -/
theorem isRead_of_below? {u base : Url} {segments : List (List Char)} (hu : u.IsRead)
    (hs : IsPath segments) (hapart : IsApart segments) (h : u.below? segments = some base) :
    base.IsRead ∧ ∃ path, base.way = .segments path := by
  unfold below? at h
  split at h
  · next path hpath =>
    cases h
    refine ⟨⟨hu.scheme, hu.authority, ?_, hu.web, hu.file, hu.guarded, ?_⟩, _, rfl⟩
    · rintro _ ⟨⟩
      exact isPath_descend (hu.path path hpath) hs
    · rintro hnone hguarded _ ⟨⟩
      exact isApart_descend (hu.apart hnone hguarded path hpath) hapart
  · cases h

/-! ## The stem as written -/

theorem isStem_ofNat (n : Nat) : IsStem (Decimal.ofNat n) := fun _ hc =>
  isStemChar_of_isHostChar (Host.isHostChar_of_isNameChar
    (Host.isNameChar_of_isDigit (Decimal.isDigit_of_mem_ofNat hc))).1

theorem Authority.isStem_write {scheme : List Char} {a : Authority} (h : a.IsRead scheme) :
    IsStem a.write := by
  have huser : IsStem a.user := by
    rcases h.user with hnil | ⟨l, hl, hchars⟩
    · rw [hnil]
      exact isStem_nil
    · rw [hl]
      exact isStem_append (fun c hc => isStemChar_of_isHostChar (hchars c hc))
        (isStem_cons (by decide) isStem_nil)
  refine isStem_append (isStem_append huser h.host) ?_
  split
  · exact isStem_cons (by decide) (isStem_ofNat _)
  · exact isStem_nil

/-- **No character of the stem ends it**, so the query of a URL begins at its first `?`. -/
theorem isStem_writeStem {u : Url} (h : u.IsRead) {path : List (List Char)}
    (hway : u.way = .segments path) : IsStem u.writeStem := by
  have hguard : IsStem (if u.guarded then ['/', '.'] else []) := by
    split
    · exact isStem_cons (by decide) (isStem_cons (by decide) isStem_nil)
    · exact isStem_nil
  have hpath : IsStem u.way.write := by
    rw [hway]
    exact isStem_writePath (h.path path hway)
  refine isStem_append (isStem_of_isScheme h.scheme)
    (isStem_cons (by decide) (isStem_append (isStem_append ?_ hguard) hpath))
  split
  · next a ha =>
    have hwrite := Authority.isStem_write (h.authority a ha)
    exact isStem_cons (by decide) (isStem_cons (by decide) hwrite)
  · exact isStem_nil

end Url

end LogVault
