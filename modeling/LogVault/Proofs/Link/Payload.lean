import LogVault.Link.Payload
import LogVault.Proofs.Json.Text
import LogVault.Proofs.Text.Decimal
import LogVault.Proofs.Text.Utf8

/-!
# LogVault.Proofs.Link.Payload — what is signed says what it means

The octets under a signature determine the payload (`octets_injective`). Each member of the document
ends by itself: a text at its closing quote, the absent snapshot after `null`, which no text begins
like, and the number at the end of the document.
-/

namespace LogVault

open Json (writeText writeText_append_inj)

theorem Mode.word_injective {m n : Mode} (h : m.word = n.word) : m = n := by
  have hsome : some m = some n := by rw [← ofWord?_word, h, ofWord?_word]
  exact Option.some.inj hsome

namespace Payload

/-! ## The document, member by member -/

/-- A snapshot as it stands in the document. -/
def writeSnapshot : Option String → List Char
  | none => "null".toList
  | some s => writeText s

theorem compact_snapshotDocument (snapshot : Option String) :
    (snapshotDocument snapshot).compact = writeSnapshot snapshot := by
  cases snapshot <;> simp [snapshotDocument, Json.Value.compact, Json.Value.leaf, writeSnapshot]

/-- What stands before each member's value. -/
def lead (first : Char) (name : String) : List Char := first :: (writeText name ++ [':'])

/-- **The document as written**: four leads, each with its value. -/
theorem compact_document (p : Payload) :
    p.document.compact =
      lead '\x7b' "key" ++ (writeText p.key ++ (lead ',' "snapshot" ++
        (writeSnapshot p.snapshot ++ (lead ',' "mode" ++ (writeText p.mode.word ++
          (lead ',' "expires" ++ (Decimal.ofInt p.expires ++ ['\x7d']))))))) := by
  simp [document, Json.Value.compact, Json.compactMembers, Json.Value.leaf, lead,
    compact_snapshotDocument]

/-! ## Taking it apart -/

/-- No text is written like an absent snapshot. -/
theorem null_append_ne_writeText_append (s : String) (rest rest' : List Char) :
    "null".toList ++ rest ≠ writeText s ++ rest' := by
  intro h
  have hhead : 'n' = '"' := List.head_eq_of_cons_eq (show 'n' :: _ = '"' :: _ from h)
  exact absurd hhead (by decide)

theorem writeSnapshot_append_inj {s t : Option String} {rest rest' : List Char}
    (h : writeSnapshot s ++ rest = writeSnapshot t ++ rest') : s = t ∧ rest = rest' := by
  cases s with
  | none =>
    cases t with
    | none => exact ⟨rfl, List.append_cancel_left h⟩
    | some t => exact absurd h (null_append_ne_writeText_append t rest rest')
  | some s =>
    cases t with
    | none => exact absurd h.symm (null_append_ne_writeText_append s rest' rest)
    | some t =>
      obtain ⟨rfl, hrest⟩ := writeText_append_inj h
      exact ⟨rfl, hrest⟩

theorem compact_document_injective {p q : Payload}
    (h : p.document.compact = q.document.compact) : p = q := by
  rw [compact_document, compact_document] at h
  -- from the left: each value ends by itself, so the rests are alike
  obtain ⟨hkey, h⟩ := writeText_append_inj (List.append_cancel_left h)
  obtain ⟨hsnapshot, h⟩ := writeSnapshot_append_inj (List.append_cancel_left h)
  obtain ⟨hmode, h⟩ := writeText_append_inj (List.append_cancel_left h)
  have hexpires := List.append_cancel_right (List.append_cancel_left h)
  obtain ⟨key, snapshot, mode, expires⟩ := p
  obtain ⟨key', snapshot', mode', expires'⟩ := q
  obtain rfl : key = key' := hkey
  obtain rfl : snapshot = snapshot' := hsnapshot
  obtain rfl : mode = mode' := Mode.word_injective hmode
  obtain rfl : expires = expires' := Decimal.ofInt_injective hexpires
  rfl

/-- **Signed octets determine the payload.** -/
theorem octets_injective {p q : Payload} (h : p.octets = q.octets) : p = q :=
  compact_document_injective (Utf8.encode_injective h)

end Payload

end LogVault
