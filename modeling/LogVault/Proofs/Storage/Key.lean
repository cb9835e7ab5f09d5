import LogVault.Proofs.Text.Cut
import LogVault.Storage.Backend

/-!
# LogVault.Proofs.Storage.Key — no two blobs share a storage key

The text of a storage key is `account/key` or `account/key@snapshot`. Three exclusions make the
parts readable again: an accepted account has no `/`, an accepted log key has no `@`, and nothing
has to be known about the snapshot, which is whatever follows the `@`. So `StorageKey.split` is a
left inverse of `StorageKey.build` (`split_of_build`), and building is injective.

Whatever takes the text for a path finds no way out of it: none of its segments is empty or one of
the names that a directory has for itself and for its parent (`names_of_build`).
-/

namespace LogVault.StorageKey

open Text (takeWhile_bne_append_cons dropWhile_bne_append_cons takeWhile_bne_eq_self
  dropWhile_bne_eq_nil)

/-! ## What is accepted -/

/-- A check that finds nothing leaves it to the checks after it. -/
theorem check_eq_none_iff {p : Prop} [Decidable p] {flaw : Flaw} {rest : Option Flaw} :
    (if p then some flaw else rest) = none ↔ ¬ p ∧ rest = none := by
  split
  · next h => simp [h]
  · next h => simp [h]

theorem accountFlaw?_eq_none_iff {account : List Char} : accountFlaw? account = none ↔
    account ≠ [] ∧ '/' ∉ account ∧ isDots account = false ∧ ∀ c ∈ account, isControl c = false := by
  simp [accountFlaw?, check_eq_none_iff]

theorem segmentFlaw?_eq_none_iff {segment : List Char} : segmentFlaw? segment = none ↔
    segment ≠ [] ∧ isDots segment = false := by
  simp [segmentFlaw?, check_eq_none_iff]

theorem keyFlaw?_eq_none_iff {key : List Char} : keyFlaw? key = none ↔
    key ≠ [] ∧ '@' ∉ key ∧ ('\\' ∉ key ∧ ∀ c ∈ key, isControl c = false) ∧
      ∀ segment ∈ key.splitOn '/', segment ≠ [] ∧ isDots segment = false := by
  simp [keyFlaw?, check_eq_none_iff, segmentFlaw?_eq_none_iff]

theorem snapshotFlaw?_eq_none_iff {snapshot : List Char} : snapshotFlaw? snapshot = none ↔
    snapshot ≠ [] ∧ ('/' ∉ snapshot ∧ '@' ∉ snapshot) ∧
      (isDots snapshot = false ∧ '\\' ∉ snapshot) ∧ ∀ c ∈ snapshot, isControl c = false := by
  simp [snapshotFlaw?, check_eq_none_iff]

theorem flaw?_eq_none_iff {account key : List Char} {snapshot : Option (List Char)} :
    flaw? account key snapshot = none ↔
      accountFlaw? account = none ∧ keyFlaw? key = none ∧ snapshot.bind snapshotFlaw? = none := by
  simp only [flaw?, Option.or_eq_none_iff]

/-- **What building gives.** It succeeds on the parts without a flaw, and spells them. -/
theorem build_eq_ok_iff {account key : String} {snapshot : Option String} {k : StorageKey} :
    build account key snapshot = .ok k ↔
      flaw? account.toList key.toList (snapshot.map String.toList) = none ∧
        k.text.toList = spell account.toList key.toList (snapshot.map String.toList) := by
  unfold build
  cases h : flaw? account.toList key.toList (snapshot.map String.toList) with
  | some flaw => simp
  | none =>
    obtain ⟨text⟩ := k
    simp only [Except.ok.injEq, StorageKey.mk.injEq, true_and]
    constructor
    · rintro rfl
      exact String.toList_ofList
    · intro htext
      rw [← htext, String.ofList_toList]

/-! ## Reading the parts again -/

/-- **Splitting undoes building.** The first `/` ends the account, and the first `@` behind it ends
the log key. -/
theorem split_of_build {account key : String} {snapshot : Option String} {k : StorageKey}
    (h : build account key snapshot = .ok k) : k.split = (account, key, snapshot) := by
  obtain ⟨hflaw, htext⟩ := build_eq_ok_iff.mp h
  obtain ⟨haccount, hkey, -⟩ := flaw?_eq_none_iff.mp hflaw
  have hslash : '/' ∉ account.toList := (accountFlaw?_eq_none_iff.mp haccount).2.1
  have hat : '@' ∉ key.toList := (keyFlaw?_eq_none_iff.mp hkey).2.1
  unfold split
  cases snapshot with
  | none =>
    -- no `@` is left behind the account, so the second cut runs to the end
    simp only [Option.map_none, spell] at htext
    simp only [htext, takeWhile_bne_append_cons hslash, dropWhile_bne_append_cons hslash,
      List.drop_succ_cons, List.drop_zero, takeWhile_bne_eq_self hat, dropWhile_bne_eq_nil hat,
      String.ofList_toList]
  | some snapshot =>
    simp only [Option.map_some, spell, List.append_assoc, List.cons_append] at htext
    simp only [htext, takeWhile_bne_append_cons hslash, dropWhile_bne_append_cons hslash,
      List.drop_succ_cons, List.drop_zero, takeWhile_bne_append_cons hat,
      dropWhile_bne_append_cons hat, String.ofList_toList]

/-- Two blobs with one storage key are one blob. -/
theorem eq_of_build_eq {a₁ k₁ a₂ k₂ : String} {s₁ s₂ : Option String} {key : StorageKey}
    (h₁ : build a₁ k₁ s₁ = .ok key) (h₂ : build a₂ k₂ s₂ = .ok key) :
    (a₁, k₁, s₁) = (a₂, k₂, s₂) := by
  rw [← split_of_build h₁, split_of_build h₂]

/-- **Storage keys are uniquely decodable.** The parts come back by cutting the text, so keys with
one text were built from the same account, log key and snapshot: accounts never meet, and no key
with a snapshot is the key of a blob without one. -/
theorem build_uniquely_decodable {a₁ k₁ a₂ k₂ : String} {s₁ s₂ : Option String}
    {key₁ key₂ : StorageKey} (h₁ : build a₁ k₁ s₁ = .ok key₁) (h₂ : build a₂ k₂ s₂ = .ok key₂) :
    key₁.split = (a₁, k₁, s₁) ∧
      (key₁.text = key₂.text ↔ a₁ = a₂ ∧ k₁ = k₂ ∧ s₁ = s₂) ∧
      (a₁ ≠ a₂ → key₁.text ≠ key₂.text) ∧
      (s₁.isSome = true → s₂ = none → key₁.text ≠ key₂.text) := by
  have hparts : key₁.text = key₂.text → a₁ = a₂ ∧ k₁ = k₂ ∧ s₁ = s₂ := by
    intro htext
    obtain ⟨t₁⟩ := key₁
    obtain ⟨t₂⟩ := key₂
    obtain rfl : t₁ = t₂ := htext
    simpa only [Prod.mk.injEq] using eq_of_build_eq h₁ h₂
  refine ⟨split_of_build h₁, ⟨hparts, ?_⟩, ?_, ?_⟩
  · rintro ⟨rfl, rfl, rfl⟩
    rw [h₁] at h₂
    cases h₂
    rfl
  · intro hne htext
    exact hne (hparts htext).1
  · rintro hsome rfl htext
    rw [(hparts htext).2.2] at hsome
    cases hsome

/-- Accounts may hold an `@`, which does not make a snapshot. -/
theorem build_uniquely_decodable_at_in_account :
    ∃ key₁ key₂ : StorageKey,
      build "a@b" "c/d" (some "s") = .ok key₁ ∧ build "a" "b/c/d" none = .ok key₂ ∧
        key₁.split = ("a@b", "c/d", some "s") ∧ key₁.text ≠ key₂.text := by
  have h₁ : build "a@b" "c/d" (some "s") = .ok ⟨"a@b/c/d@s"⟩ := by rfl
  have h₂ : build "a" "b/c/d" none = .ok ⟨"a/b/c/d"⟩ := by rfl
  obtain ⟨hsplit, -, haccounts, -⟩ := build_uniquely_decodable h₁ h₂
  exact ⟨_, _, h₁, h₂, hsplit, haccounts (by decide)⟩

/-! ## Segments -/

/-- A tail without a slash goes on with the last segment, and leaves the others as they are. -/
theorem mem_splitOn_append {tail : List Char} (htail : '/' ∉ tail) (front : List Char)
    {segment : List Char} (h : segment ∈ (front ++ tail).splitOn '/') :
    segment ∈ front.splitOn '/' ∨ ∃ start ∈ front.splitOn '/', segment = start ++ tail := by
  by_cases hslash : '/' ∈ front
  · obtain ⟨start, rest, hfront, hstart⟩ := List.eq_append_cons_of_mem hslash
    rw [hfront, List.append_assoc, List.cons_append,
      List.splitOn_append_cons_self_of_not_mem hstart, List.mem_cons] at h
    rw [hfront, List.splitOn_append_cons_self_of_not_mem hstart]
    rcases h with rfl | h
    · exact .inl List.mem_cons_self
    · rcases mem_splitOn_append htail rest h with h | ⟨last, hlast, rfl⟩
      · exact .inl (List.mem_cons_of_mem start h)
      · exact .inr ⟨last, List.mem_cons_of_mem start hlast, rfl⟩
  · have hboth : '/' ∉ front ++ tail := by simp [hslash, htail]
    rw [List.splitOn_eq_singleton hboth, List.mem_singleton] at h
    exact .inr ⟨front, by rw [List.splitOn_eq_singleton hslash]; exact List.mem_cons_self, h⟩
termination_by front.length
decreasing_by simp [hfront]; omega

/-- **The segments of a storage key** all name something, and no control stands in them: where only
what is before the `@` could be a directory's name for itself or its parent, the snapshot makes it
another. -/
theorem names_of_build {account key : String} {snapshot : Option String} {k : StorageKey}
    (h : build account key snapshot = .ok k) :
    (∀ segment ∈ k.text.toList.splitOn '/', segment ≠ [] ∧ isDots segment = false) ∧
      ∀ c ∈ k.text.toList, isControl c = false := by
  obtain ⟨hflaw, htext⟩ := build_eq_ok_iff.mp h
  obtain ⟨haccount, hkey, hsnapshot⟩ := flaw?_eq_none_iff.mp hflaw
  obtain ⟨hempty, hslash, hdots, hcontrols⟩ := accountFlaw?_eq_none_iff.mp haccount
  obtain ⟨-, -, ⟨-, hkeyControls⟩, hsegments⟩ := keyFlaw?_eq_none_iff.mp hkey
  have hcontrol : isControl '/' = false := rfl
  rw [htext]
  cases snapshot with
  | none =>
    rw [Option.map_none, spell, List.splitOn_append_cons_self_of_not_mem hslash]
    refine ⟨List.forall_mem_cons.mpr ⟨⟨hempty, hdots⟩, hsegments⟩, ?_⟩
    intro c hc
    rcases List.mem_append.mp hc with hc | hc
    · exact hcontrols c hc
    · rcases List.mem_cons.mp hc with rfl | hc
      · exact hcontrol
      · exact hkeyControls c hc
  | some snapshot =>
    obtain ⟨-, ⟨hsnapshotSlash, -⟩, -, hsnapshotControls⟩ :=
      snapshotFlaw?_eq_none_iff.mp (show snapshotFlaw? snapshot.toList = none from hsnapshot)
    have htail : '/' ∉ '@' :: snapshot.toList := by simp [hsnapshotSlash]
    rw [Option.map_some, spell, List.append_assoc, List.cons_append,
      List.splitOn_append_cons_self_of_not_mem hslash]
    refine ⟨List.forall_mem_cons.mpr ⟨⟨hempty, hdots⟩, ?_⟩, ?_⟩
    · intro segment hsegment
      rcases mem_splitOn_append htail key.toList hsegment with h | ⟨start, -, rfl⟩
      · exact hsegments segment h
      · -- a segment with an `@` in it is neither empty nor made of points
        have hat : '@' ∈ start ++ '@' :: snapshot.toList := by simp
        refine ⟨List.ne_nil_of_mem hat, ?_⟩
        rw [isDots, Bool.or_eq_false_iff, beq_eq_false_iff_ne, beq_eq_false_iff_ne]
        constructor
        · intro heq
          rw [heq] at hat
          revert hat
          decide
        · intro heq
          rw [heq] at hat
          revert hat
          decide
    · intro c hc
      simp only [List.mem_append, List.mem_cons] at hc
      rcases hc with hc | rfl | hc | rfl | hc
      · exact hcontrols c hc
      · exact hcontrol
      · exact hkeyControls c hc
      · rfl
      · exact hsnapshotControls c hc

end LogVault.StorageKey

namespace LogVault.BlobRef

/-! ## Blobs -/

variable {blob : BlobRef}

/-- A blob lies under the storage key that is built of its parts. -/
theorem resolve_eq_ok_iff {key : StorageKey} : blob.resolve = .ok key ↔
    StorageKey.build blob.account blob.key blob.snapshot = .ok key := by
  unfold resolve
  cases StorageKey.build blob.account blob.key blob.snapshot <;> simp

/-- A blob without a storage key is the fault of its caller. -/
theorem status_of_resolve {fault : Fault} (h : blob.resolve = .error fault) :
    fault.status = 400 := by
  unfold resolve at h
  split at h
  · cases h
  · cases h
    rfl

end LogVault.BlobRef
