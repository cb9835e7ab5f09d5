import LogVault.Proofs.Storage.Key

/-!
# LogVault.Proofs.Storage.Grammar — which parts make a storage key, and which one is blamed

Accounts, segments of log keys and snapshots are names: not empty, not one of the two that stand for
a directory and its parent, and free of controls and of certain marks. A log key is one or more of
them with slashes between. The checks accept just these (`accountFlaw?_eq_none_iff_isAccount` and its
two siblings), and the first part that is none is blamed, whatever follows it:
`build_follows_grammar`.
-/

namespace LogVault.StorageKey

/-! ## Names -/

/-- A control character: U+0000 to U+001F and U+007F to U+009F. -/
def IsControl (c : Char) : Prop := c.toNat ≤ 0x1F ∨ (0x7F ≤ c.toNat ∧ c.toNat ≤ 0x9F)

/-- **A name** without certain marks. -/
structure IsName (marks : List Char) (s : String) : Prop where
  ne_empty : s ≠ ""
  ne_dot : s ≠ "."
  ne_dots : s ≠ ".."
  no_mark : ∀ mark ∈ marks, mark ∉ s.toList
  no_control : ∀ c ∈ s.toList, ¬ IsControl c

/-- An account. -/
def IsAccount (s : String) : Prop := IsName ['/'] s

/-- A snapshot, and a segment of a log key. -/
def IsSnapshot (s : String) : Prop := IsName ['/', '@', '\\'] s

/-- **A log key**: one or more segments, with slashes between. -/
def IsLogKey (s : String) : Prop :=
  ∃ segments : List String, segments ≠ [] ∧ (∀ segment ∈ segments, IsSnapshot segment) ∧
    s = "/".intercalate segments

theorem isControl_eq_false_iff {c : Char} : isControl c = false ↔ ¬ IsControl c := by
  simp only [isControl, IsControl, Bool.or_eq_false_iff, Bool.and_eq_false_iff,
    decide_eq_false_iff_not]
  omega

theorem isDots_eq_false_iff {s : String} : isDots s.toList = false ↔ s ≠ "." ∧ s ≠ ".." := by
  have hdot : ['.'] = ".".toList := rfl
  have hdots : ['.', '.'] = "..".toList := rfl
  rw [isDots, Bool.or_eq_false_iff, beq_eq_false_iff_ne, beq_eq_false_iff_ne, hdots, hdot, Ne, Ne,
    String.toList_inj, String.toList_inj]

theorem toList_ne_nil_iff {s : String} : s.toList ≠ [] ↔ s ≠ "" :=
  not_congr String.toList_eq_nil_iff

/-! ## What the checks accept -/

theorem accountFlaw?_eq_none_iff_isAccount {s : String} :
    accountFlaw? s.toList = none ↔ IsAccount s := by
  simp only [accountFlaw?_eq_none_iff, toList_ne_nil_iff, isDots_eq_false_iff,
    isControl_eq_false_iff]
  constructor
  · rintro ⟨hempty, hslash, ⟨hdot, hdots⟩, hcontrol⟩
    exact ⟨hempty, hdot, hdots, by simpa using hslash, hcontrol⟩
  · intro h
    exact ⟨h.ne_empty, h.no_mark _ (by simp), ⟨h.ne_dot, h.ne_dots⟩, h.no_control⟩

theorem snapshotFlaw?_eq_none_iff_isSnapshot {s : String} :
    snapshotFlaw? s.toList = none ↔ IsSnapshot s := by
  simp only [snapshotFlaw?_eq_none_iff, toList_ne_nil_iff, isDots_eq_false_iff,
    isControl_eq_false_iff]
  constructor
  · rintro ⟨hempty, ⟨hslash, hat⟩, ⟨⟨hdot, hdots⟩, hback⟩, hcontrol⟩
    exact ⟨hempty, hdot, hdots, by simp [hslash, hat, hback], hcontrol⟩
  · intro h
    exact ⟨h.ne_empty, ⟨h.no_mark _ (by simp), h.no_mark _ (by simp)⟩,
      ⟨⟨h.ne_dot, h.ne_dots⟩, h.no_mark _ (by simp)⟩, h.no_control⟩

/-! ### Joined segments -/

section Segments

variable {segments : List String}

theorem toList_intercalate_slash :
    ("/".intercalate segments).toList = ['/'].intercalate (segments.map String.toList) :=
  String.toList_intercalate

/-- What joined segments hold beside the slashes, the segments hold. -/
theorem mem_toList_intercalate_iff {c : Char} (hc : c ≠ '/') :
    c ∈ ("/".intercalate segments).toList ↔ ∃ segment ∈ segments, c ∈ segment.toList := by
  rw [toList_intercalate_slash, Text.mem_intercalate_iff hc]
  simp only [List.mem_map, exists_exists_and_eq_and]

/-- **Joined segments are cut where they were joined.** -/
theorem splitOn_toList_intercalate (hne : segments ≠ [])
    (hnames : ∀ segment ∈ segments, IsSnapshot segment) :
    ("/".intercalate segments).toList.splitOn '/' = segments.map String.toList := by
  have hslash : ∀ piece ∈ segments.map String.toList, '/' ∉ piece := by
    intro piece hpiece
    obtain ⟨segment, hsegment, rfl⟩ := List.mem_map.mp hpiece
    exact (hnames segment hsegment).no_mark _ (by simp)
  rw [toList_intercalate_slash,
    List.splitOn_intercalate '/' hslash (List.map_eq_nil_iff.not.mpr hne)]

/-- Joined segments have no flaw. -/
theorem keyFlaw?_intercalate (hne : segments ≠ [])
    (hnames : ∀ segment ∈ segments, IsSnapshot segment) :
    keyFlaw? ("/".intercalate segments).toList = none := by
  have hcut := splitOn_toList_intercalate hne hnames
  have hmark : ∀ mark ∈ ['/', '@', '\\'], mark ≠ '/' →
      mark ∉ ("/".intercalate segments).toList := by
    intro mark hmem hmark hin
    obtain ⟨segment, hsegment, hin⟩ := (mem_toList_intercalate_iff hmark).mp hin
    exact (hnames segment hsegment).no_mark mark hmem hin
  rw [keyFlaw?_eq_none_iff]
  refine ⟨?_, hmark _ (by simp) (by decide), ⟨hmark _ (by simp) (by decide), ?_⟩, ?_⟩
  · intro hnil
    rw [hnil, List.splitOn_nil] at hcut
    obtain ⟨segment, hsegment, hempty⟩ := List.mem_map.mp (hcut ▸ List.mem_cons_self)
    exact toList_ne_nil_iff.mpr (hnames segment hsegment).ne_empty hempty
  · intro c hc
    by_cases heq : c = '/'
    · exact heq ▸ rfl
    · obtain ⟨segment, hsegment, hin⟩ := (mem_toList_intercalate_iff heq).mp hc
      exact isControl_eq_false_iff.mpr ((hnames segment hsegment).no_control c hin)
  · intro piece hpiece
    rw [hcut] at hpiece
    obtain ⟨segment, hsegment, rfl⟩ := List.mem_map.mp hpiece
    have hname := hnames segment hsegment
    exact ⟨toList_ne_nil_iff.mpr hname.ne_empty,
      isDots_eq_false_iff.mpr ⟨hname.ne_dot, hname.ne_dots⟩⟩

end Segments

/-- The pieces of a key without a flaw are names: they hold nothing that the whole does not hold. -/
theorem isSnapshot_of_mem_splitOn {key piece : List Char} (h : keyFlaw? key = none)
    (hpiece : piece ∈ key.splitOn '/') : IsSnapshot (String.ofList piece) := by
  obtain ⟨-, hat, ⟨hback, hcontrol⟩, hsegments⟩ := keyFlaw?_eq_none_iff.mp h
  obtain ⟨hempty, hdots⟩ := hsegments piece hpiece
  have hslash : '/' ∉ piece := Text.notMem_of_mem_splitOn hpiece
  have hin : ∀ c ∈ piece, c ∈ key := by
    intro c hc
    have hne : c ≠ '/' := fun heq => hslash (heq ▸ hc)
    have hmem := (Text.mem_intercalate_iff hne).mpr ⟨piece, hpiece, hc⟩
    rwa [List.intercalate_splitOn] at hmem
  rw [← snapshotFlaw?_eq_none_iff_isSnapshot, String.toList_ofList, snapshotFlaw?_eq_none_iff]
  exact ⟨hempty, ⟨hslash, fun h => hat (hin _ h)⟩, ⟨hdots, fun h => hback (hin _ h)⟩,
    fun c hc => hcontrol c (hin c hc)⟩

theorem keyFlaw?_eq_none_iff_isLogKey {s : String} : keyFlaw? s.toList = none ↔ IsLogKey s := by
  constructor
  · intro h
    refine ⟨(s.toList.splitOn '/').map String.ofList,
      List.map_eq_nil_iff.not.mpr (List.splitOn_ne_nil _ _), ?_, ?_⟩
    · intro segment hsegment
      obtain ⟨piece, hpiece, rfl⟩ := List.mem_map.mp hsegment
      exact isSnapshot_of_mem_splitOn h hpiece
    · have hpieces : ((s.toList.splitOn '/').map String.ofList).map String.toList =
          s.toList.splitOn '/' := by simp [Function.comp_def]
      rw [← String.toList_inj, toList_intercalate_slash, hpieces, List.intercalate_splitOn]
  · rintro ⟨segments, hne, hnames, rfl⟩
    exact keyFlaw?_intercalate hne hnames

/-! ## What the checks say -/

theorem message_of_accountFlaw? {account : List Char} {flaw : Flaw}
    (h : accountFlaw? account = some flaw) : "accountID ".toList <+: flaw.message.toList := by
  unfold accountFlaw? at h
  repeat' split at h
  all_goals cases h
  all_goals decide

theorem message_of_segmentFlaw? {segment : List Char} {flaw : Flaw}
    (h : segmentFlaw? segment = some flaw) : "key ".toList <+: flaw.message.toList := by
  unfold segmentFlaw? at h
  repeat' split at h
  all_goals cases h
  all_goals decide

theorem message_of_keyFlaw? {key : List Char} {flaw : Flaw} (h : keyFlaw? key = some flaw) :
    "key ".toList <+: flaw.message.toList := by
  unfold keyFlaw? at h
  split at h
  · cases h
    decide
  split at h
  · cases h
    decide
  split at h
  · cases h
    decide
  · obtain ⟨segment, -, hsegment⟩ := List.exists_of_findSome?_eq_some h
    exact message_of_segmentFlaw? hsegment

theorem message_of_snapshotFlaw? {snapshot : List Char} {flaw : Flaw}
    (h : snapshotFlaw? snapshot = some flaw) :
    "snapshot ".toList <+: flaw.message.toList ∨
      "invalid snapshot ".toList <+: flaw.message.toList := by
  unfold snapshotFlaw? at h
  split at h
  · cases h
    exact .inl (by decide)
  split at h
  · cases h
    exact .inl (by decide)
  split at h
  · obtain rfl := Option.some.inj h
    have hprefix : "invalid snapshot ".toList <+: "invalid snapshot name: ".toList := by decide
    have hmessage : (Flaw.snapshotInvalid (String.ofList snapshot)).message.toList =
        "invalid snapshot name: ".toList ++ (Text.quoted (String.ofList snapshot)).toList :=
      String.toList_append
    right
    rw [hmessage]
    exact hprefix.trans (List.prefix_append _ _)
  · cases h

/-! ## What building says -/

variable {account key : String} {snapshot : Option String}

theorem build_of_flaw? {flaw : Flaw}
    (h : flaw? account.toList key.toList (snapshot.map String.toList) = some flaw) :
    (build account key snapshot).mapError Flaw.fault = .error (.invalidArgument flaw.message) := by
  rw [build, h]
  rfl

/-- The text that three parts spell. -/
theorem toList_spell (account key : String) (snapshot : Option String) :
    (account ++ "/" ++ key ++ snapshot.elim "" ("@" ++ ·)).toList =
      spell account.toList key.toList (snapshot.map String.toList) := by
  cases snapshot with
  | none => simp [spell]
  | some s => simp [spell]

theorem snapshotFlaw?_bind_eq_none_iff :
    (snapshot.map String.toList).bind snapshotFlaw? = none ↔ ∀ s ∈ snapshot, IsSnapshot s := by
  cases snapshot with
  | none => simp
  | some s => simp [snapshotFlaw?_eq_none_iff_isSnapshot]

/-- **Building accepts exactly the names**, and spells them. -/
theorem build_eq_ok_iff_names {k : StorageKey} : build account key snapshot = .ok k ↔
    (IsAccount account ∧ IsLogKey key ∧ ∀ s ∈ snapshot, IsSnapshot s) ∧
      k.text = account ++ "/" ++ key ++ snapshot.elim "" ("@" ++ ·) := by
  rw [build_eq_ok_iff, flaw?_eq_none_iff, accountFlaw?_eq_none_iff_isAccount,
    keyFlaw?_eq_none_iff_isLogKey, snapshotFlaw?_bind_eq_none_iff, ← toList_spell,
    String.toList_inj]

/-- **Building accepts exactly its grammar.** Of parts that are no names the first is blamed, whatever
follows it: the account, then the log key, then the snapshot. -/
theorem build_follows_grammar (account key : String) (snapshot : Option String) :
    (∀ k, build account key snapshot = .ok k ↔
      (IsAccount account ∧ IsLogKey key ∧ ∀ s ∈ snapshot, IsSnapshot s) ∧
        k.text = account ++ "/" ++ key ++ snapshot.elim "" ("@" ++ ·)) ∧
    (¬ IsAccount account → ∃ message : String, "accountID ".toList <+: message.toList ∧
      ∀ key snapshot, (build account key snapshot).mapError Flaw.fault =
        .error (.invalidArgument message)) ∧
    (IsAccount account → ¬ IsLogKey key → ∃ message : String, "key ".toList <+: message.toList ∧
      ∀ snapshot, (build account key snapshot).mapError Flaw.fault =
        .error (.invalidArgument message)) ∧
    (IsAccount account → IsLogKey key → ∀ s ∈ snapshot, ¬ IsSnapshot s →
      ∃ message : String,
        ("snapshot ".toList <+: message.toList ∨ "invalid snapshot ".toList <+: message.toList) ∧
        (build account key snapshot).mapError Flaw.fault = .error (.invalidArgument message)) := by
  refine ⟨fun k => build_eq_ok_iff_names, fun haccount => ?_, fun haccount hkey => ?_,
    fun haccount hkey s hs hsnapshot => ?_⟩
  · rw [← accountFlaw?_eq_none_iff_isAccount] at haccount
    obtain ⟨flaw, hflaw⟩ := Option.ne_none_iff_exists'.mp haccount
    refine ⟨flaw.message, message_of_accountFlaw? hflaw, fun key snapshot => build_of_flaw? ?_⟩
    rw [flaw?, hflaw, Option.some_or]
  · rw [← keyFlaw?_eq_none_iff_isLogKey] at hkey
    obtain ⟨flaw, hflaw⟩ := Option.ne_none_iff_exists'.mp hkey
    refine ⟨flaw.message, message_of_keyFlaw? hflaw, fun snapshot => build_of_flaw? ?_⟩
    rw [flaw?, accountFlaw?_eq_none_iff_isAccount.mpr haccount, hflaw, Option.none_or,
      Option.some_or]
  · rw [← snapshotFlaw?_eq_none_iff_isSnapshot] at hsnapshot
    obtain ⟨flaw, hflaw⟩ := Option.ne_none_iff_exists'.mp hsnapshot
    refine ⟨flaw.message, message_of_snapshotFlaw? hflaw, build_of_flaw? ?_⟩
    rw [flaw?, accountFlaw?_eq_none_iff_isAccount.mpr haccount,
      keyFlaw?_eq_none_iff_isLogKey.mpr hkey, Option.none_or, Option.none_or, hs, Option.map_some,
      Option.bind_some, hflaw]

/-- Beside a control of the second block, a doubled slash and a backslash; each part is blamed only
once those before it are in order. -/
theorem build_follows_grammar_in_order :
    (∃ message : String, "accountID ".toList <+: message.toList ∧
      (build "acct\u0085" "a//b" (some "s\\t")).mapError Flaw.fault =
        .error (.invalidArgument message)) ∧
    (∃ message : String, "key ".toList <+: message.toList ∧
      (build "acct" "a//b" (some "s\\t")).mapError Flaw.fault =
        .error (.invalidArgument message)) ∧
    (∃ message : String,
      ("snapshot ".toList <+: message.toList ∨ "invalid snapshot ".toList <+: message.toList) ∧
      (build "acct" "a/b" (some "s\\t")).mapError Flaw.fault =
        .error (.invalidArgument message)) ∧
    build "acct" "a/b" (some "s t") = .ok ⟨"acct/a/b@s t"⟩ := by
  have haccount : IsAccount "acct" := accountFlaw?_eq_none_iff_isAccount.mp (by decide)
  have hkey : IsLogKey "a/b" := keyFlaw?_eq_none_iff_isLogKey.mp (by decide)
  have hnoAccount : ¬ IsAccount "acct\u0085" := by
    rw [← accountFlaw?_eq_none_iff_isAccount]
    decide
  have hnoKey : ¬ IsLogKey "a//b" := by
    rw [← keyFlaw?_eq_none_iff_isLogKey]
    decide
  have hnoSnapshot : ¬ IsSnapshot "s\\t" := by
    rw [← snapshotFlaw?_eq_none_iff_isSnapshot]
    decide
  have hsnapshot : IsSnapshot "s t" := snapshotFlaw?_eq_none_iff_isSnapshot.mp (by decide)
  refine ⟨?_, ?_, ?_, ?_⟩
  · obtain ⟨message, hbegins, hrefused⟩ :=
      (build_follows_grammar "acct\u0085" "a//b" (some "s\\t")).2.1 hnoAccount
    exact ⟨message, hbegins, hrefused _ _⟩
  · obtain ⟨message, hbegins, hrefused⟩ :=
      (build_follows_grammar "acct" "a//b" (some "s\\t")).2.2.1 haccount hnoKey
    exact ⟨message, hbegins, hrefused _⟩
  · exact (build_follows_grammar "acct" "a/b" (some "s\\t")).2.2.2 haccount hkey _ rfl hnoSnapshot
  · refine ((build_follows_grammar "acct" "a/b" (some "s t")).1 _).mpr ⟨⟨haccount, hkey, ?_⟩, rfl⟩
    rintro _ ⟨⟩
    exact hsnapshot

end LogVault.StorageKey
