import LogVault.Json.Printer
import LogVault.Json.Reader

/-!
# LogVault.Proofs.Json.Text — texts inside documents

The writer escapes a character at a time. The reader turns every escape into the piece it stands for
(`readPieces_escapeChar_append`) and joins the pieces to the same characters
(`joinPieces_map_pieceOf`), so a written text is read back and ends at its closing quote, whatever
follows it (`readText_escape_append`). Hence two texts that are written alike with anything behind
them are equal, and so is what follows (`writeText_append_inj`).
-/

namespace LogVault.Json

/-! ## Pieces -/

/-- A character that is escaped by its number. -/
def needsUnit (c : Char) : Bool :=
  c.toNat < 0x20 && !(['\x08', '\x0c', '\n', '\r', '\t'] : List Char).contains c

/-- The piece that a written character is read as. -/
def pieceOf (c : Char) : Piece := if needsUnit c then .unit c.toNat else .char c

theorem unit?_of_lt {n : Nat} (h : n < 0x20) :
    unit? '0' '0' (Hex.digit (n / 16)) (Hex.digit (n % 16)) = some n := by
  have hhigh := Hex.value_digit (n / 16) (by omega)
  have hlow := Hex.value_digit (n % 16) (by omega)
  have hzero : Hex.value? '0' = some 0 := by decide
  simp only [unit?, hzero, hhigh, hlow, Option.bind_eq_bind, Option.bind_some, Option.pure_def]
  rw [show ((0 * 16 + 0) * 16 + n / 16) * 16 + n % 16 = n by omega]

/-- An escape with a letter is read as the character that the letter stands for. -/
theorem readPieces_letter {e c : Char} (hu : e ≠ 'u') (hc : letterEscape? e = some c)
    (rest : List Char) :
    readPieces ('\\' :: e :: rest) = (readPieces rest).map fun p => (.char c :: p.1, p.2) := by
  cases h : readPieces rest <;> simp [readPieces, hu, hc, h]

/-- **One character** is read as its piece. -/
theorem readPieces_escapeChar_append (c : Char) (rest : List Char) :
    readPieces (escapeChar c ++ rest) =
      (readPieces rest).map fun p => (pieceOf c :: p.1, p.2) := by
  unfold escapeChar
  split
  · next h => subst h; exact readPieces_letter (by decide) (by decide) rest
  split
  · next h => subst h; exact readPieces_letter (by decide) (by decide) rest
  split
  · next h => subst h; exact readPieces_letter (by decide) (by decide) rest
  split
  · next h => subst h; exact readPieces_letter (by decide) (by decide) rest
  split
  · next h => subst h; exact readPieces_letter (by decide) (by decide) rest
  split
  · next h => subst h; exact readPieces_letter (by decide) (by decide) rest
  split
  · next h => subst h; exact readPieces_letter (by decide) (by decide) rest
  split
  · next h08 h0c hn hr ht hlow =>
    have hunit : pieceOf c = .unit c.toNat := by
      rw [pieceOf, if_pos]
      simp [needsUnit, hlow, h08, h0c, hn, hr, ht]
    cases h : readPieces rest <;> simp [readPieces, unit?_of_lt hlow, h, hunit]
  · next hquote hback h08 h0c hn hr ht hlow =>
    -- the quote and the backslash were ruled out first, so the reader takes the character as it is
    have hchar : pieceOf c = .char c := by
      rw [pieceOf, if_neg]
      simp [needsUnit, hlow]
    cases h : readPieces rest <;> simp [readPieces, hback, hlow, h, hchar]

theorem readPieces_escape_append (l rest : List Char) :
    readPieces (l.flatMap escapeChar ++ '"' :: rest) = some (l.map pieceOf, rest) := by
  induction l with
  | nil => simp [readPieces]
  | cons c l ih =>
    rw [List.flatMap_cons, List.append_assoc, readPieces_escapeChar_append, ih]
    rfl

/-! ## Characters -/

/-- A unit that stands for a control is half of no pair. -/
theorem joinPieces_pieceOf_cons (c : Char) (pieces : List Piece) :
    joinPieces (pieceOf c :: pieces) = (joinPieces pieces).map (c :: ·) := by
  unfold pieceOf
  split
  · next h =>
    simp only [needsUnit, Bool.and_eq_true, decide_eq_true_eq] at h
    have hlead : isLead c.toNat = false := by simp [isLead]; omega
    have htrail : isTrail c.toNat = false := by simp [isTrail]; omega
    cases pieces with
    | nil => simp [joinPieces, hlead, htrail]
    | cons p pieces => cases p <;> simp [joinPieces, hlead, htrail]
  · rw [joinPieces]

theorem joinPieces_map_pieceOf (l : List Char) : joinPieces (l.map pieceOf) = some l := by
  induction l with
  | nil => rfl
  | cons c l ih => rw [List.map_cons, joinPieces_pieceOf_cons, ih, Option.map_some]

/-! ## Texts -/

/-- **A written text is read back** up to its closing quote. -/
theorem readText_escape_append (s : String) (rest : List Char) :
    readText (s.toList.flatMap escapeChar ++ '"' :: rest) = some (s, rest) := by
  simp only [readText, readPieces_escape_append, joinPieces_map_pieceOf, Option.bind_eq_bind,
    Option.bind_some, String.ofList_toList, Option.pure_def]

/-- **A written text ends by itself**: what stands behind it cannot be taken for a part of it. -/
theorem writeText_append_inj {s t : String} {rest rest' : List Char}
    (h : writeText s ++ rest = writeText t ++ rest') : s = t ∧ rest = rest' := by
  simp only [writeText, List.cons_append, List.append_assoc, List.nil_append, List.cons.injEq,
    true_and] at h
  have hread := readText_escape_append s rest
  rw [h, readText_escape_append, Option.some.injEq, Prod.mk.injEq] at hread
  exact ⟨hread.1.symm, hread.2.symm⟩

end LogVault.Json
