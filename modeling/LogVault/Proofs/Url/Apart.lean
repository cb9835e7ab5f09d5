import LogVault.Proofs.Text.Cut
import LogVault.Proofs.Text.Percent
import LogVault.Url.Basic

/-!
# LogVault.Proofs.Url.Apart — paths that are not taken for hosts

Where no host is, a path that begins with an empty segment would be taken for one, since it is
written with two slashes in front. Reading guards such a path, and any other is apart (`IsApart`): the
segments that reading gives hold no slash of their own, so the first one does not begin with it. A
path that is apart stays so further down (`isApart_descend`).
-/

namespace LogVault.Url

/-! ## Paths as written -/

/-- **A path that is not taken for a host** where no host is: it is not written with two slashes in
front. -/
def IsApart (path : List (List Char)) : Prop := ∀ rest, writePath path ≠ '/' :: '/' :: rest

theorem isApart_of_cons {c : Char} (h : c ≠ '/') (segment : List Char) (path : List (List Char)) :
    IsApart ((c :: segment) :: path) := by
  intro rest heq
  have htail : c :: (segment ++ writePath path) = '/' :: rest := (List.cons.inj heq).2
  exact h (List.cons.inj htail).1

theorem ne_of_isApart {c : Char} {segment : List Char} {path : List (List Char)}
    (h : IsApart ((c :: segment) :: path)) : c ≠ '/' := by
  rintro rfl
  exact h (segment ++ writePath path) rfl

theorem not_isApart_empty_cons (segment : List Char) (path : List (List Char)) :
    ¬ IsApart ([] :: segment :: path) := fun h => h (segment ++ writePath path) rfl

/-- A path further down is not taken for a host either. -/
theorem isApart_descend {path segments : List (List Char)} (hp : IsApart path)
    (hs : IsApart segments) : IsApart (descend path segments) := by
  match path with
  | [] => exact hs
  | [[]] => exact hs
  | [] :: segment :: path => exact absurd hp (not_isApart_empty_cons segment path)
  | (c :: segment) :: path =>
    -- the first segment stays the first
    obtain ⟨kept, hkept⟩ : ∃ kept, descend ((c :: segment) :: path) segments =
        (c :: segment) :: kept := by
      cases path with
      | nil => exact ⟨segments, by simp [descend]⟩
      | cons next path =>
        unfold descend
        dsimp only
        split
        · rw [List.dropLast_cons_cons, if_neg (by simp)]
          exact ⟨_, rfl⟩
        · rw [if_neg (by simp)]
          exact ⟨_, rfl⟩
    rw [hkept]
    exact isApart_of_cons (ne_of_isApart hp) segment kept

/-! ## Segments without slashes -/

/-- A segment that leads down is the one that is taken. -/
theorem Step.eq_of_ofSegment {segment taken : List Char} (h : ofSegment segment = .down taken) :
    taken = segment := by
  unfold ofSegment at h
  split at h
  · cases h
  · split at h
    · cases h
    · exact (Step.down.inj h).symm

/-- No segment holds a slash. -/
def HasNoSlash (path : List (List Char)) : Prop := ∀ segment ∈ path, '/' ∉ segment

theorem slash_notMem_encodeSegment {l : List Char} (h : '/' ∉ l) : '/' ∉ encodeSegment l := by
  have hchars : ∀ c ∈ encodeSegment l, c ≠ '/' := by
    refine Percent.forall_mem_encode (fun c hc => ?_) fun b hb _ => ?_
    · rintro rfl
      exact absurd hc (by decide)
    · intro hslash
      -- the octet of a slash is that of a slash of the text
      have hascii : b.toNat < 0x80 := by
        rw [← Percent.octet_char b, hslash]
        decide
      exact h (hslash ▸ Utf8.char_mem_of_octet_mem hascii hb)
  exact fun hmem => hchars '/' hmem rfl

namespace Trail

theorem hasNoSlash_push {t : Trail} {segment : List Char} (ht : HasNoSlash t.segments)
    (hs : '/' ∉ segment) : HasNoSlash (t.push segment).segments :=
  List.forall_mem_append.mpr ⟨ht, List.forall_mem_singleton.mpr hs⟩

theorem hasNoSlash_parent {t : Trail} (ht : HasNoSlash t.segments) :
    HasNoSlash t.parent.segments := by
  unfold parent
  split
  · exact ht
  · exact fun segment h => ht segment ((List.dropLast_sublist _).subset h)

/-- Outside the web a text without a slash adds no slash. -/
theorem hasNoSlash_step {t : Trail} {last : Bool} {text : List Char} (ht : HasNoSlash t.segments)
    (htext : '/' ∉ text) : HasNoSlash (t.step .plain last text).segments := by
  have hdrive : ∀ segment, ¬ (Rules.plain = .file ∧ t.segments = [] ∧ isDrive segment = true) := by
    simp
  rw [step, if_neg (by simp)]
  dsimp only
  split
  · split
    · exact hasNoSlash_push ht List.not_mem_nil
    · exact ht
  · split
    · exact hasNoSlash_push (hasNoSlash_parent ht) List.not_mem_nil
    · exact hasNoSlash_parent ht
  · next segment hstep =>
    rw [append, if_neg (hdrive segment), Step.eq_of_ofSegment hstep]
    refine hasNoSlash_push ht (slash_notMem_encodeSegment fun hmem => htext ?_)
    exact (List.mem_filter.mp hmem).1

theorem hasNoSlash_follow {t : Trail} {texts : List (List Char)} (ht : HasNoSlash t.segments)
    (htexts : ∀ text ∈ texts, '/' ∉ text) : HasNoSlash (t.follow .plain texts).segments := by
  induction texts generalizing t with
  | nil => exact ht
  | cons text rest ih =>
    obtain ⟨htext, hrest⟩ := List.forall_mem_cons.mp htexts
    exact ih (hasNoSlash_step ht htext) hrest

end Trail

theorem hasNoSlash_pathOf (l : List Char) : HasNoSlash (pathOf .plain l) :=
  Trail.hasNoSlash_follow (fun _ h => absurd h List.not_mem_nil)
    fun _ htext => Text.notMem_of_mem_splitOn htext

/-- A path of segments without slashes is apart if no empty segment stands in front of others. -/
theorem isApart_of_hasNoSlash {path : List (List Char)} (h : HasNoSlash path)
    (hempty : ∀ segment rest, path ≠ [] :: segment :: rest) : IsApart path := by
  match path with
  | [] => exact nofun
  | [[]] => exact nofun
  | [] :: segment :: rest => exact absurd rfl (hempty segment rest)
  | (c :: segment) :: rest =>
    refine isApart_of_cons (fun hslash => h _ List.mem_cons_self ?_) segment rest
    rw [hslash]
    exact List.mem_cons_self

end LogVault.Url
