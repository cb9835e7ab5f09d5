import LogVault.Proofs.Url.Rereading

/-!
# LogVault.Proofs.Url.Path — paths that reading leaves as they are

A segment is kept (`IsKept`) if all its characters stand for themselves in a path and it is neither
`.` nor `..`. Below whatever stands in front, kept segments come back one for one
(`pathOf_append_slash`): they take nothing away from the front, and nothing of them is lost.
-/

namespace LogVault.Url

open Utf8 (octet)

/-! ## Segments -/

/-- **A segment that is kept** when a path is read. -/
structure IsKept (segment : List Char) : Prop where
  stands : ∀ c ∈ segment, c.toNat < 0x80 ∧ keepsInPath (octet c) = true
  backslash : '\\' ∉ segment
  plain : plainPoints segment = segment
  ne_point : segment ≠ ['.']
  ne_points : segment ≠ ['.', '.']

namespace IsKept

variable {segment : List Char}

theorem nil : IsKept [] where
  stands _ hc := absurd hc List.not_mem_nil
  backslash := List.not_mem_nil
  plain := rfl
  ne_point := by decide
  ne_points := by decide

theorem encodeSegment_eq (h : IsKept segment) : encodeSegment segment = segment :=
  Percent.encodeText_eq_self h.stands

theorem counted_eq (h : IsKept segment) : counted segment = segment := by
  apply counted_eq_self
  intro c hc
  have hself := isStem_encodeSegment segment
  rw [h.encodeSegment_eq] at hself
  exact lt_toNat_of_isStemChar (hself c hc)

theorem ofSegment_eq (h : IsKept segment) : Step.ofSegment segment = .down segment := by
  rw [Step.ofSegment, h.plain, if_neg h.ne_point, if_neg h.ne_points]

/-- A kept segment is one more segment. -/
theorem step_eq (h : IsKept segment) (t : Trail) (last : Bool) :
    t.step .web last segment = t.push segment := by
  have hfile : ¬ (Rules.web = .file ∧ t.segments = []) := by simp
  have hdrive : ¬ (Rules.web = .file ∧ t.segments = [] ∧ isDrive segment = true) := by simp
  simp only [Trail.step, if_neg hfile, h.counted_eq, h.encodeSegment_eq, h.ofSegment_eq]
  rw [Trail.append, if_neg hdrive]

end IsKept

/-! ## Trails -/

namespace Trail

/-- **Kept segments come back one for one.** -/
theorem segments_follow {segments : List (List Char)} (h : ∀ segment ∈ segments, IsKept segment)
    (t : Trail) : (t.follow .web segments).segments = t.segments ++ segments := by
  -- on the segments: each is pushed, whether it is the last or not
  induction segments generalizing t with
  | nil => rw [List.append_nil]; rfl
  | cons segment rest ih =>
    obtain ⟨hsegment, hrest⟩ := List.forall_mem_cons.mp h
    show ((t.step .web rest.isEmpty segment).follow .web rest).segments = _
    rw [hsegment.step_eq, ih hrest, push, List.append_assoc, List.singleton_append]

/-- The trail after texts that others follow. -/
def followOn (rules : Rules) (t : Trail) (texts : List (List Char)) : Trail :=
  texts.foldl (fun t text => t.step rules false text) t

theorem follow_append {rules : Rules} {rest : List (List Char)} (hrest : rest ≠ [])
    (texts : List (List Char)) (t : Trail) :
    t.follow rules (texts ++ rest) = (t.followOn rules texts).follow rules rest := by
  induction texts generalizing t with
  | nil => rfl
  | cons text texts ih =>
    -- none of the texts in front is the last one
    have hlast : (texts ++ rest).isEmpty = false := by simp [hrest]
    show (t.step rules (texts ++ rest).isEmpty text).follow rules (texts ++ rest) = _
    rw [hlast, ih]
    rfl

end Trail

/-! ## Paths -/

theorem cutSlashes_append_slash (rules : Rules) (front rest : List Char) :
    cutSlashes rules (front ++ '/' :: rest) = cutSlashes rules front ++ cutSlashes rules rest := by
  have hslash : (if rules.takesBackslash && '/' = '\\' then '/' else '/') = '/' := ite_self _
  rw [cutSlashes, List.map_append, List.map_cons, hslash, List.splitOn_append_cons_self]
  rfl

/-- A text without backslashes is cut at its slashes. -/
theorem cutSlashes_eq_splitOn {l : List Char} (h : '\\' ∉ l) (rules : Rules) :
    cutSlashes rules l = l.splitOn '/' := by
  have hsame : l.map (fun c => if rules.takesBackslash && c = '\\' then '/' else c) = l := by
    refine (List.map_congr_left ?_).trans (List.map_id l)
    intro c hc
    have hne : c ≠ '\\' := fun heq => h (heq ▸ hc)
    simp [hne]
  rw [cutSlashes, hsame]

/-- The path to which a front leads, whatever follows it. -/
def above (front : List Char) : List (List Char) :=
  (Trail.start.followOn .web (cutSlashes .web front)).segments

/-- **The path below a front.** Kept segments are added to it as they are. -/
theorem pathOf_append_slash {rest : List Char} (hbackslash : '\\' ∉ rest)
    (hkept : ∀ segment ∈ rest.splitOn '/', IsKept segment) (front : List Char) :
    pathOf .web (front ++ '/' :: rest) = above front ++ rest.splitOn '/' := by
  rw [pathOf, trailOf, cutSlashes_append_slash, cutSlashes_eq_splitOn hbackslash,
    Trail.follow_append (List.splitOn_ne_nil '/' rest), Trail.segments_follow hkept, above]

theorem pathOf_concat_slash (front : List Char) :
    pathOf .web (front ++ ['/']) = above front ++ [[]] := by
  have hempty : ([] : List Char).splitOn '/' = [[]] := List.splitOn_nil '/'
  have hkept : ∀ segment ∈ ([] : List Char).splitOn '/', IsKept segment := by
    rw [hempty]
    exact List.forall_mem_singleton.mpr .nil
  rw [pathOf_append_slash List.not_mem_nil hkept, hempty]

theorem writePath_append (path segments : List (List Char)) :
    writePath (path ++ segments) = writePath path ++ writePath segments :=
  List.flatMap_append

/-- Segments are written as the text that was cut into them. -/
theorem writePath_splitOn (l : List Char) : writePath (l.splitOn '/') = '/' :: l := by
  have hwrite (segments : List (List Char)) (h : segments ≠ []) :
      writePath segments = '/' :: ['/'].intercalate segments := by
    induction segments with
    | nil => exact absurd rfl h
    | cons segment rest ih =>
      cases rest with
      | nil => simp [writePath]
      | cons next rest =>
        have hcons : writePath (segment :: next :: rest) =
            '/' :: segment ++ writePath (next :: rest) := rfl
        rw [hcons, ih (List.cons_ne_nil next rest), List.intercalate_cons_of_ne_nil
          (List.cons_ne_nil next rest)]
        simp
  rw [hwrite _ (List.splitOn_ne_nil '/' l), List.intercalate_splitOn]

/-- **A front that reading leaves as it is** is left so with kept segments below it. -/
theorem writePath_pathOf_append_slash {front rest : List Char} (hbackslash : '\\' ∉ rest)
    (hkept : ∀ segment ∈ rest.splitOn '/', IsKept segment)
    (hfront : writePath (pathOf .web (front ++ ['/'])) = '/' :: (front ++ ['/'])) :
    writePath (pathOf .web (front ++ '/' :: rest)) = '/' :: (front ++ '/' :: rest) := by
  -- without the empty segment that stands for its last slash, the front is written as it is
  rw [pathOf_concat_slash, writePath_append, ← List.cons_append] at hfront
  have hwritten : writePath (above front) = '/' :: front := List.append_inj_left' hfront rfl
  rw [pathOf_append_slash hbackslash hkept, writePath_append, hwritten, writePath_splitOn,
    List.cons_append]

end LogVault.Url
