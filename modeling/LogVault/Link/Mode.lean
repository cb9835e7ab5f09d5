/-!
# LogVault.Link.Mode — what a link permits

A link permits one of two things to its bearer: to write the blob that it names, or to read it.
-/

namespace LogVault

/-- **The one operation** that a link permits. -/
inductive Mode where
  | upload
  | download
  deriving Repr, DecidableEq, Inhabited

namespace Mode

/-- The word for a mode, in links and messages. -/
def word : Mode → String
  | .upload => "upload"
  | .download => "download"

/-- The mode of a word. -/
def ofWord? (s : String) : Option Mode :=
  if s = "upload" then some .upload else if s = "download" then some .download else none

@[simp] theorem ofWord?_word (m : Mode) : ofWord? m.word = some m := by cases m <;> rfl

theorem word_of_ofWord? {s : String} {m : Mode} (h : ofWord? s = some m) : m.word = s := by
  unfold ofWord? at h
  split at h
  · cases h; simp_all [word]
  · split at h
    · cases h; simp_all [word]
    · cases h

end Mode

end LogVault
